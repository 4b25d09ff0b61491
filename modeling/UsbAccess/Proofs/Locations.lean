import Mathlib
import UsbAccess.DeviceDir

/-!
# Locations and their paths

A location is reached by its path when each name on the way leads from a directory to what is no
link. Any path leads to such a location once its links are resolved, so that to resolve the
location's own path again changes nothing.

Results:
* `Path.split_append`: what stands on both sides of a separator is split by itself.
* `Path.fileName?_join`: the name below a directory is the last piece of the path to it.
* `Path.join_join_inj`: two names can be read off a path that leads through them.
* `FileTree.settled_of_canonical`: where a path leads, the location is settled.
* `FileTree.canonical_path`: the path of a settled location leads to it.
* `DeviceDir.above_eq`: what stands above a device's directory.
-/

namespace UsbAccess

namespace Path

/-! ## Pieces -/

theorem split_cons (separator b : UInt8) (bytes : Bytes) :
    ∃ piece rest, split separator bytes = piece :: rest ∧
      split separator (b :: bytes) = if b = separator then [] :: piece :: rest
        else (b :: piece) :: rest := by
  induction bytes generalizing b with
  | nil => exact ⟨[], [], rfl, rfl⟩
  | cons c bytes ih =>
    obtain ⟨piece, rest, hsplit, hcons⟩ := ih c
    have hstep : ∀ first others, split separator (c :: bytes) = first :: others →
        split separator (b :: c :: bytes) = if b = separator then [] :: first :: others
          else (b :: first) :: others := by
      intro first others heq
      rw [split] at heq
      rw [split, List.foldr_cons, heq]
    split_ifs at hcons
    · exact ⟨_, _, hcons, hstep _ _ hcons⟩
    · exact ⟨_, _, hcons, hstep _ _ hcons⟩

/-- What stands on both sides of a separator is split by itself. -/
theorem split_append (separator : UInt8) (a b : Bytes) :
    split separator (a ++ separator :: b) = split separator a ++ split separator b := by
  induction a with
  | nil =>
    obtain ⟨piece, rest, hb, hcons⟩ := split_cons separator separator b
    rw [List.nil_append, hcons, if_pos rfl, hb]
    rfl
  | cons c a ih =>
    obtain ⟨piece, rest, ha, hcons⟩ := split_cons separator c a
    obtain ⟨piece', rest', ha', hcons'⟩ := split_cons separator c (a ++ separator :: b)
    rw [ih, ha, List.cons_append, List.cons.injEq] at ha'
    rw [List.cons_append, hcons, hcons', ← ha'.1, ← ha'.2]
    split_ifs <;> rfl

theorem split_of_not_mem {separator : UInt8} {piece : Bytes} (h : separator ∉ piece) :
    split separator piece = [piece] := by
  induction piece with
  | nil => rfl
  | cons b bytes ih =>
    rw [List.mem_cons, not_or] at h
    obtain ⟨first, others, hbytes, hcons⟩ := split_cons separator b bytes
    rw [ih h.2, List.cons.injEq] at hbytes
    rw [hcons, if_neg (Ne.symm h.1), ← hbytes.1, ← hbytes.2]

theorem not_mem_of_mem_split {separator : UInt8} {bytes piece : Bytes}
    (h : piece ∈ split separator bytes) :
    separator ∉ piece := by
  induction bytes generalizing piece with
  | nil =>
    rw [List.mem_singleton.1 h]
    exact List.not_mem_nil
  | cons b bytes ih =>
    obtain ⟨first, others, hbytes, hcons⟩ := split_cons separator b bytes
    rw [hbytes] at ih
    rw [hcons] at h
    split_ifs at h with hb
    · rcases List.mem_cons.1 h with rfl | hrest
      · exact List.not_mem_nil
      · exact ih hrest
    · rcases List.mem_cons.1 h with rfl | hrest
      · rw [List.mem_cons, not_or]
        exact ⟨Ne.symm hb, ih List.mem_cons_self⟩
      · exact ih (List.mem_cons_of_mem _ hrest)

/-! ## Names -/

/-- A name in a directory, which stands for itself in a path. -/
structure IsName (name : Bytes) : Prop where
  ne_nil : name ≠ []
  ne_here : name ≠ here
  ne_up : name ≠ up
  slash_not_mem : slash ∉ name

theorem IsName.not_silent {name : Bytes} (h : IsName name) : ¬ (name = [] ∨ name = here) := by
  rw [not_or]
  exact ⟨h.ne_nil, h.ne_here⟩

theorem fileName?_of_pieces {p : Path} {before : List Bytes} {name : Bytes} (hname : IsName name)
    (hpieces : p.pieces = before ++ [name]) : p.fileName? = some name := by
  have hlast : p.parts.getLast? = some name := by
    have hkeep : [name].filter (fun piece => decide (piece ≠ []) && decide (piece ≠ here)) =
        [name] := by
      simp [hname.ne_nil, hname.ne_here]
    rw [parts, hpieces, List.filter_append, hkeep, List.getLast?_concat]
  unfold fileName?
  rw [hlast]
  exact if_neg hname.ne_up

/-- The name below a directory is the last piece of the path to it. -/
theorem fileName?_join (p : Path) {name : Bytes} (hname : IsName name) :
    (p.join ⟨name⟩).fileName? = some name := by
  have hsplit : split slash name = [name] := split_of_not_mem hname.slash_not_mem
  have hpieces : ∃ before, (p.join ⟨name⟩).pieces = before ++ [name] := by
    unfold join
    split_ifs with hwhole hslash
    · exact ⟨[], hsplit⟩
    · obtain ⟨parent, hparent⟩ := List.getLast?_eq_some_iff.1 (by simpa using hslash)
      refine ⟨split slash parent, ?_⟩
      show split slash (p.bytes ++ name) = _
      rw [hparent, List.append_assoc, List.singleton_append, split_append, hsplit]
    · exact ⟨split slash p.bytes, (split_append ..).trans (by rw [hsplit])⟩
  obtain ⟨before, hbefore⟩ := hpieces
  exact fileName?_of_pieces hname hbefore

/-- The path of a name ends in the name's last byte, and so not in a slash. -/
theorem join_end (p : Path) {name : Bytes} (hname : IsName name) :
    (p.join ⟨name⟩).bytes.isEmpty = false ∧ (p.join ⟨name⟩).bytes.getLast? ≠ some slash := by
  have hlast : ∃ before, (p.join ⟨name⟩).bytes = before ++ name := by
    unfold join
    split_ifs
    · exact ⟨[], rfl⟩
    · exact ⟨p.bytes, rfl⟩
    · exact ⟨p.bytes ++ [slash], by simp⟩
  obtain ⟨before, hbefore⟩ := hlast
  rw [hbefore]
  refine ⟨by simpa using fun _ => hname.ne_nil, fun hslash => ?_⟩
  rw [List.getLast?_append_of_ne_nil _ hname.ne_nil] at hslash
  exact hname.slash_not_mem (List.mem_of_getLast? hslash)

theorem isAbsolute_eq_false {name : Bytes} (hname : IsName name) :
    (Path.mk name).isAbsolute = false := by
  rw [isAbsolute, beq_eq_false_iff_ne]
  exact fun hhead => hname.slash_not_mem (List.mem_of_head? hhead)

/-- Two names can be read off a path that leads through them. -/
theorem join_join_inj (root : Path) {a b a' b' : Bytes} (ha : IsName a) (hb : IsName b)
    (ha' : IsName a') (hb' : IsName b') :
    (root.join ⟨a⟩).join ⟨b⟩ = (root.join ⟨a'⟩).join ⟨b'⟩ ↔ a = a' ∧ b = b' := by
  constructor
  · intro heq
    have hlast : b = b' := by
      have hname := congrArg fileName? heq
      rwa [fileName?_join _ hb, fileName?_join _ hb', Option.some.injEq] at hname
    subst hlast
    have hbytes := congrArg Path.bytes heq
    rw [join_bytes (isAbsolute_eq_false hb) (join_end root ha).1 (join_end root ha).2,
      join_bytes (isAbsolute_eq_false hb) (join_end root ha').1 (join_end root ha').2] at hbytes
    have hdir : root.join ⟨a⟩ = root.join ⟨a'⟩ := by
      rw [Path.mk.injEq]
      exact List.append_cancel_right hbytes
    have hname := congrArg fileName? hdir
    rw [fileName?_join _ ha, fileName?_join _ ha', Option.some.injEq] at hname
    exact ⟨hname, rfl⟩
  · rintro ⟨rfl, rfl⟩
    rfl

end Path

namespace Location

theorem split_intercalate {l : Location} (hne : l ≠ []) (hl : ∀ name ∈ l, Path.slash ∉ name) :
    Path.split Path.slash ([Path.slash].intercalate l) = l := by
  induction l with
  | nil => exact absurd rfl hne
  | cons name rest ih =>
    have hname : Path.split Path.slash name = [name] :=
      Path.split_of_not_mem (hl name List.mem_cons_self)
    cases rest with
    | nil => rwa [List.intercalate_singleton]
    | cons next rest =>
      have hrest := ih (List.cons_ne_nil _ _) fun n hn => hl n (List.mem_cons_of_mem _ hn)
      rw [List.intercalate_cons_cons, List.append_assoc, List.singleton_append, Path.split_append,
        hname, hrest]
      rfl

theorem pieces_path {l : Location} (hl : ∀ name ∈ l, Path.slash ∉ name) :
    (Location.path l).pieces = [] :: if l = [] then [[]] else l := by
  show Path.split Path.slash ([] ++ Path.slash :: [Path.slash].intercalate l) = _
  rw [Path.split_append]
  split_ifs with hnil
  · rw [hnil]
    rfl
  · rw [split_intercalate hnil hl]
    rfl

theorem intercalate_prefix (l rest : Location) :
    [Path.slash].intercalate l <+: [Path.slash].intercalate (l ++ rest) := by
  induction l with
  | nil => exact List.nil_prefix
  | cons name l ih =>
    rw [List.cons_append]
    by_cases hl : l = []
    · subst hl
      rw [List.intercalate_singleton, List.nil_append]
      cases rest with
      | nil => rw [List.intercalate_singleton]
      | cons next rest =>
        rw [List.intercalate_cons_cons, List.append_assoc]
        exact List.prefix_append ..
    · have hlonger : l ++ rest ≠ [] := by simp [hl]
      rw [List.intercalate_cons_of_ne_nil hl, List.intercalate_cons_of_ne_nil hlonger]
      exact (List.prefix_append_right_inj _).2 ih

/-- The path of a location begins with that of every location above it. -/
theorem path_prefix (l rest : Location) :
    (Location.path l).bytes <+: (Location.path (l ++ rest)).bytes :=
  List.cons_prefix_cons.2 ⟨rfl, intercalate_prefix l rest⟩

end Location

namespace FileTree

/-- The names lead, one after the other, from directory to directory, and the last one to no link.
-/
inductive Settled (t : FileTree) : Location → Prop
  | root : Settled t []
  | step {l : Location} {name : Bytes} {node : FileNode} (hl : Settled t l)
      (hdir : t.node? l = some .dir) (hname : Path.IsName name) (hlength : name.length ≤ maxName)
      (hnode : t.node? (l ++ [name]) = some node)
      (hlink : ∀ target, node ≠ .link target) : Settled t (l ++ [name])

theorem Settled.dropLast {t : FileTree} {l : Location} (h : t.Settled l) :
    t.Settled l.dropLast := by
  cases h with
  | root => exact .root
  | step hl =>
    rw [List.dropLast_concat]
    exact hl

theorem Settled.isName {t : FileTree} {l : Location} (h : t.Settled l) :
    ∀ name ∈ l, Path.IsName name := by
  induction h with
  | root => exact fun name hname => absurd hname List.not_mem_nil
  | step _ _ hname _ _ _ ih =>
    intro name' hmem
    rcases List.mem_append.1 hmem with hbefore | hlast
    · exact ih name' hbefore
    · rw [List.mem_singleton.1 hlast]
      exact hname

theorem lookUp_eq_ok {t : FileTree} {l : Location} {name : Bytes} {node : FileNode} :
    t.lookUp l name = .ok node ↔ (Location.path (l ++ [name])).bytes.length ≤ maxPath ∧
      t.node? l = some .dir ∧ name.length ≤ maxName ∧ t.node? (l ++ [name]) = some node := by
  unfold lookUp
  split_ifs with hlong hdir hname
  · simp only [false_iff]
    omega
  · simp [hdir]
  · simp only [false_iff]
    omega
  · cases hnode : t.node? (l ++ [name]) with
    | none => simp
    | some found =>
      rw [not_lt] at hlong hname
      rw [not_not] at hdir
      simp [hlong, hname, hdir]

theorem found_of_confirm {l : Location} {found : Except Errno FileNode} {rest : List Bytes}
    (hok : confirm l found rest = .ok ()) : ∃ node, found = .ok node := by
  unfold confirm at hok
  split_ifs at hok
  cases found with
  | ok node => exact ⟨node, rfl⟩
  | error e => cases hok

section

variable (t : FileTree) (links : ℕ) (start : Location) {piece : Bytes} (rest : List Bytes)

theorem resolve_nil : t.resolve links start [] = .ok start := by
  rw [resolve.eq_def]

theorem resolve_silent (hsilent : piece = [] ∨ piece = Path.here) :
    t.resolve links start (piece :: rest) = t.resolve links start rest := by
  rw [resolve.eq_def]
  exact if_pos hsilent

theorem resolve_up :
    t.resolve links start (Path.up :: rest) = t.resolve links start.dropLast rest := by
  rw [resolve.eq_def]
  exact (if_neg (by decide)).trans (if_pos rfl)

end

section

variable {t : FileTree} {start : Location} {piece : Bytes}
  (hloud : ¬ (piece = [] ∨ piece = Path.here)) (hup : piece ≠ Path.up)

include hloud hup

theorem resolve_loop {target : Bytes} (rest : List Bytes)
    (hlink : t.lookUp start piece = .ok (.link target)) :
    t.resolve 0 start (piece :: rest) = .error .linkLoop := by
  rw [resolve.eq_def]
  refine (if_neg hloud).trans ((if_neg hup).trans ?_)
  rw [hlink]

theorem resolve_link {target : Bytes} (links : ℕ) (rest : List Bytes)
    (hlink : t.lookUp start piece = .ok (.link target)) :
    t.resolve (links + 1) start (piece :: rest) =
      t.resolve links (if (Path.mk target).isAbsolute then [] else start)
      ((Path.mk target).pieces ++ rest) := by
  rw [resolve.eq_def]
  refine (if_neg hloud).trans ((if_neg hup).trans ?_)
  rw [hlink]

theorem resolve_found (links : ℕ) (rest : List Bytes)
    (hlink : ∀ target, t.lookUp start piece ≠ .ok (.link target)) :
    t.resolve links start (piece :: rest) =
      match confirm (start ++ [piece]) (t.lookUp start piece) rest with
      | .ok _ => t.resolve links (start ++ [piece]) rest
      | .error e => .error e := by
  rw [resolve.eq_def]
  refine (if_neg hloud).trans ((if_neg hup).trans ?_)
  generalize t.lookUp start piece = found at hlink
  rcases found with e | _ | _ | target
  · cases links <;> rfl
  · cases links <;> rfl
  · cases links <;> rfl
  · exact absurd rfl (hlink target)

end

theorem ne_link {found : Except Errno FileNode} {links : ℕ}
    (hlast : ∀ target, found = .ok (.link target) → links = 0 → False)
    (hmore : ∀ target links', found = .ok (.link target) → links = Nat.succ links' → False) :
    ∀ target, found ≠ .ok (.link target) := by
  intro target hlink
  cases links with
  | zero => exact hlast target hlink rfl
  | succ links => exact hmore target links hlink rfl

/-- Where a path leads, with all links resolved, the location is settled. -/
theorem settled_of_resolve {t : FileTree} {links : ℕ} {start l : Location} {pieces : List Bytes}
    (hstart : t.Settled start) (hpieces : ∀ piece ∈ pieces, Path.slash ∉ piece)
    (hresolve : t.resolve links start pieces = .ok l) : t.Settled l := by
  induction links, start, pieces using FileTree.resolve.induct t with
  | case1 links start =>
    rw [resolve_nil] at hresolve
    cases hresolve
    exact hstart
  | case2 links start piece rest hsilent ih =>
    rw [resolve_silent t links start rest hsilent] at hresolve
    exact ih hstart (fun p hp => hpieces p (List.mem_cons_of_mem _ hp)) hresolve
  | case3 links start rest hloud ih =>
    rw [resolve_up] at hresolve
    exact ih hstart.dropLast (fun p hp => hpieces p (List.mem_cons_of_mem _ hp)) hresolve
  | case4 start piece rest hloud hup target hlink =>
    rw [resolve_loop hloud hup rest hlink] at hresolve
    cases hresolve
  | case5 start piece rest hloud hup target links hlink ih =>
    rw [resolve_link hloud hup links rest hlink] at hresolve
    refine ih ?_ (fun p hp => ?_) hresolve
    · split_ifs
      · exact .root
      · exact hstart
    · rcases List.mem_append.1 hp with htarget | hrest
      · exact Path.not_mem_of_mem_split htarget
      · exact hpieces p (List.mem_cons_of_mem _ hrest)
  | case6 start piece rest hloud hup links _ hlast hmore hconfirm ih =>
    have hlink := ne_link hlast hmore
    rw [resolve_found hloud hup links rest hlink, hconfirm] at hresolve
    obtain ⟨node, hnode⟩ := found_of_confirm hconfirm
    obtain ⟨-, hdir, hlength, hstands⟩ := lookUp_eq_ok.1 hnode
    rw [not_or] at hloud
    refine ih (.step hstart hdir ⟨hloud.1, hloud.2, hup,
      hpieces piece List.mem_cons_self⟩ hlength hstands ?_)
      (fun p hp => hpieces p (List.mem_cons_of_mem _ hp)) hresolve
    rintro target rfl
    exact hlink target hnode
  | case7 start piece rest hloud hup links e hlast hmore hconfirm =>
    have hlink := ne_link hlast hmore
    rw [resolve_found hloud hup links rest hlink, hconfirm] at hresolve
    cases hresolve

theorem settled_of_canonical {t : FileTree} {p : Path} {l : Location}
    (hcanonical : t.canonical p = .ok l) :
    t.Settled l := by
  unfold canonical requirePath at hcanonical
  split_ifs at hcanonical
  · cases hcanonical
  · cases hcanonical
  · change (t.resolve maxLinks [] p.pieces).mapError FileFault.refused = .ok l at hcanonical
    cases hresolve : t.resolve maxLinks [] p.pieces with
    | error e =>
      rw [hresolve] at hcanonical
      cases hcanonical
    | ok l' =>
      rw [hresolve] at hcanonical
      cases hcanonical
      exact settled_of_resolve .root (fun _ => Path.not_mem_of_mem_split) hresolve

theorem Settled.of_append {t : FileTree} {l rest : Location} (h : t.Settled (l ++ rest)) :
    t.Settled l := by
  induction rest using List.reverseRecOn with
  | nil => simpa using h
  | append_singleton rest name ih =>
    have hshorter := h.dropLast
    rw [← List.append_assoc, List.dropLast_concat] at hshorter
    exact ih hshorter

theorem Settled.of_concat {t : FileTree} {l : Location} {name : Bytes}
    (h : t.Settled (l ++ [name])) :
    t.node? l = some .dir ∧ Path.IsName name ∧ name.length ≤ maxName ∧
      ∃ node, t.node? (l ++ [name]) = some node ∧ ∀ target, node ≠ .link target := by
  generalize heq : l ++ [name] = whole at h
  cases h with
  | root => exact absurd heq (by simp)
  | step hl hdir hname hlength hnode hlink =>
    obtain ⟨rfl, hlast⟩ := List.append_inj' heq rfl
    cases hlast
    exact ⟨hdir, hname, hlength, _, hnode, hlink⟩

/-- Names ask for no directory behind them, as an empty piece at the end of a path does. -/
theorem wantsDir_of_isName {names : List Bytes} (hnames : ∀ name ∈ names, Path.IsName name) :
    wantsDir names = false := by
  cases names with
  | nil => rfl
  | cons next rest =>
    have hnext : Path.IsName next := hnames next List.mem_cons_self
    have hkeep : ((next :: rest).dropWhile fun piece => piece = [] || piece = Path.here) =
        next :: rest := by
      refine List.dropWhile_cons_of_neg ?_
      simpa using hnext.not_silent
    rw [wantsDir, hkeep]
    exact decide_eq_false hnext.ne_up

/-- Names that lead to a settled location lead there with no link resolved. -/
theorem resolve_of_settled {t : FileTree} {links : ℕ} {start names : Location}
    (hsettled : t.Settled (start ++ names))
    (hlength : (Location.path (start ++ names)).bytes.length ≤ maxPath) :
    t.resolve links start names = .ok (start ++ names) := by
  induction names generalizing start with
  | nil => rw [resolve_nil, List.append_nil]
  | cons name rest ih =>
    have hsplit : start ++ name :: rest = (start ++ [name]) ++ rest := by simp
    rw [hsplit] at hsettled hlength ⊢
    obtain ⟨hdir, hname, hshort, node, hnode, hlink⟩ := hsettled.of_append.of_concat
    have hreach : (Location.path (start ++ [name])).bytes.length ≤ maxPath :=
      (Location.path_prefix _ rest).length_le.trans hlength
    have hlook : t.lookUp start name = .ok node := lookUp_eq_ok.2 ⟨hreach, hdir, hshort, hnode⟩
    have hconfirm : confirm (start ++ [name]) (.ok node) rest = .ok () := by
      have hwants : wantsDir rest = false := wantsDir_of_isName fun next hnext =>
        hsettled.isName next (List.mem_append_right _ hnext)
      simp [confirm, hwants]
    rw [resolve_found hname.not_silent hname.ne_up links rest ?_, hlook, hconfirm]
    · exact ih hsettled hlength
    · intro target htarget
      rw [hlook, Except.ok.injEq] at htarget
      exact hlink target htarget

/-- The path of a settled location leads to it. -/
theorem canonical_path {t : FileTree} {l : Location} (hsettled : t.Settled l)
    (hzero : (Location.path l).hasZero = false)
    (hlength : (Location.path l).bytes.length ≤ maxPath) :
    t.canonical (Location.path l) = .ok l := by
  have hpieces := Location.pieces_path fun name hname => (hsettled.isName name hname).slash_not_mem
  have hresolve : t.resolve maxLinks [] (Location.path l).pieces = .ok l := by
    rw [hpieces, resolve_silent t maxLinks [] _ (.inl rfl)]
    split_ifs with hl
    · rw [resolve_silent t maxLinks [] _ (.inl rfl), resolve_nil, hl]
    · exact resolve_of_settled hsettled hlength
  unfold canonical requirePath
  rw [hzero, hresolve]
  rfl

/-- The system takes the path of whatever it finds by that path. -/
theorem requireWhole_of_exists? {t : FileTree} {p : Path} (hexists : t.exists? p = true) :
    p.hasZero = false ∧ p.bytes.length ≤ maxPath := by
  have hwhole : requireWhole p = .ok () := by
    unfold exists? locate place at hexists
    cases hrequire : requireWhole p with
    | ok _ => rfl
    | error fault =>
      rw [hrequire] at hexists
      cases hexists
  unfold requireWhole at hwhole
  cases hpath : requirePath p with
  | error fault =>
    rw [hpath] at hwhole
    cases hwhole
  | ok _ =>
    have hzero : p.hasZero = false := by
      unfold requirePath at hpath
      split_ifs at hpath with hzero
      exact Bool.eq_false_iff.2 hzero
    rw [hpath] at hwhole
    change (if maxPath < p.bytes.length then Except.error _ else Except.ok ()) = _ at hwhole
    split_ifs at hwhole with hlong
    exact ⟨hzero, not_lt.1 hlong⟩

theorem exists?_of_readText {t : FileTree} {p : Path} {text : String}
    (htext : t.readText p = .ok text) :
    t.exists? p = true := by
  unfold exists?
  cases hlocate : t.locate .follow p with
  | ok l => rfl
  | error fault =>
    unfold readText read openToRead at htext
    cases hpermit : t.permit p fun r => r ≠ .none with
    | ok _ =>
      rw [hpermit, hlocate] at htext
      cases htext
    | error fault =>
      rw [hpermit] at htext
      cases htext

end FileTree

theorem Path.prefix_join (p : Path) {name : Path} (hname : name.isAbsolute = false) :
    p.bytes <+: (p.join name).bytes := by
  unfold join
  rw [hname, Bool.false_or]
  split_ifs with hempty
  · rw [List.isEmpty_iff.1 hempty]
    exact List.nil_prefix
  · exact List.prefix_append ..
  · exact List.prefix_append ..

namespace DeviceDir

/-! ## Directories of devices -/

theorem attr_exists {d : DeviceDir} {files : FileTree} {name text : String}
    (hattr : d.attr files name = .ok text) :
    files.exists? (d.path.child name) = true := by
  unfold attr at hattr
  cases htext : files.readText (d.path.child name) with
  | ok text => exact FileTree.exists?_of_readText htext
  | error fault =>
    rw [htext] at hattr
    cases hattr

theorem number_exists {d : DeviceDir} {files : FileTree} {name : String} {n : UInt8}
    (hnumber : d.number files name = .ok n) : files.exists? (d.path.child name) = true := by
  unfold number parsed at hnumber
  cases hattr : d.attr files name with
  | ok text => exact attr_exists hattr
  | error e =>
    rw [hattr] at hnumber
    cases hnumber

/-- A directory with the two numbers of a device has the files of both. -/
theorem address_exists {d : DeviceDir} {files : FileTree} {a : BusAddress}
    (haddress : d.address files = .ok a) :
    files.exists? (d.path.child "busnum") = true ∧
    files.exists? (d.path.child "devnum") = true := by
  unfold address at haddress
  cases hbus : d.busNumber files with
  | error e =>
    rw [hbus] at haddress
    cases haddress
  | ok bus =>
    rw [hbus] at haddress
    cases hnumber : d.deviceNumber files with
    | error e =>
      rw [hnumber] at haddress
      cases haddress
    | ok number => exact ⟨number_exists hbus, number_exists hnumber⟩

/-- The path of a settled location leads to it, if there is a device's directory. -/
theorem canonical_of_address {files : FileTree} {l : Location} {a : BusAddress}
    (hsettled : files.Settled l) (haddress : address ⟨Location.path l⟩ files = .ok a) :
    files.canonical (Location.path l) = .ok l := by
  obtain ⟨hzero, hlength⟩ := FileTree.requireWhole_of_exists? (address_exists haddress).1
  have hbegin : (Location.path l).bytes <+: ((Location.path l).child "busnum").bytes :=
    Path.prefix_join _ (by decide)
  refine FileTree.canonical_path hsettled ?_ (hbegin.length_le.trans hlength)
  have hno : (0 : UInt8) ∉ ((Location.path l).child "busnum").bytes := by
    simpa [Path.hasZero] using hzero
  simpa [Path.hasZero] using fun hmem => hno (hbegin.subset hmem)

/-- Above a directory stands the one above the location to which it leads. -/
theorem above_eq {d : DeviceDir} {files : FileTree} {l : Location}
    (hcanonical : files.canonical d.path = .ok l) :
    d.above files =
      if l ≠ [] ∧ files.exists? ((Location.path l.dropLast).child "busnum") = true ∧
          files.exists? ((Location.path l.dropLast).child "devnum") = true then
        .ok (some ⟨Location.path l.dropLast⟩)
      else .ok none := by
  unfold above
  rw [hcanonical]
  cases l with
  | nil => rfl
  | cons name rest => simp

end DeviceDir

end UsbAccess
