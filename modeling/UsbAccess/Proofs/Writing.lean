import Mathlib
import UsbAccess.Proofs.NestedHubs

/-!
# Files that have been written

A file that has been written by a path is read back by this path, whether it was there before or
not. The path is followed a second time through the same directories and links, because none of them
was changed: what is written is a file.

Results:
* `FileTree.receives_of_walk`: a path leads to the file that has been written by it.
* `FileTree.read_of_write`: what has been written is read.
* `DeviceDir.read_of_selectConfiguration`, `DeviceDir.activeConfiguration_of_read`: a configuration
  that is selected in a directory is read there.
-/

namespace UsbAccess

namespace FileTree

/-! ## Steps on the way -/

section

variable {t : FileTree} {purpose : Purpose} {links : ℕ} {start : Location} {piece : Bytes}
  {rest : List Bytes}

theorem walk_silent (hsilent : piece = [] ∨ piece = Path.here) :
    t.walk purpose links start (piece :: rest) = t.walk purpose links start rest := by
  rw [walk.eq_def]
  exact if_pos hsilent

theorem walk_up :
    t.walk purpose links start (Path.up :: rest) = t.walk purpose links start.dropLast rest := by
  rw [walk.eq_def]
  exact (if_neg (by decide)).trans (if_pos rfl)

variable (hloud : ¬ (piece = [] ∨ piece = Path.here)) (hup : piece ≠ Path.up)

include hloud hup

theorem walk_bare (hbare : purpose = .create ∧ rest ≠ [] ∧ rest.all List.isEmpty = true) :
    t.walk purpose links start (piece :: rest) = .error .isDirectory := by
  rw [walk.eq_def]
  exact (if_neg hloud).trans ((if_neg hup).trans (if_pos hbare))

variable (hplain : ¬ (purpose = .create ∧ rest ≠ [] ∧ rest.all List.isEmpty = true))

include hplain

theorem walk_long (hlong : maxName < piece.length) :
    t.walk purpose links start (piece :: rest) = .error .nameTooLong := by
  rw [walk.eq_def]
  exact (if_neg hloud).trans ((if_neg hup).trans ((if_neg hplain).trans (if_pos hlong)))

variable (hname : ¬ maxName < piece.length)

include hname

theorem walk_free (hnode : t.node? (start ++ [piece]) = none) :
    t.walk purpose links start (piece :: rest) =
      if rest = [] then .ok (.free (start ++ [piece])) else .error .noEntry := by
  rw [walk.eq_def]
  refine (if_neg hloud).trans ((if_neg hup).trans ((if_neg hplain).trans ((if_neg hname).trans ?_)))
  rw [hnode]

theorem walk_dir (hnode : t.node? (start ++ [piece]) = some .dir) :
    t.walk purpose links start (piece :: rest) = t.walk purpose links (start ++ [piece]) rest := by
  rw [walk.eq_def]
  refine (if_neg hloud).trans ((if_neg hup).trans ((if_neg hplain).trans ((if_neg hname).trans ?_)))
  rw [hnode]

theorem walk_file {content : Bytes} (hnode : t.node? (start ++ [piece]) = some (.file content)) :
    t.walk purpose links start (piece :: rest) =
      if rest = [] then .ok (.taken (start ++ [piece])) else .error .notDirectory := by
  rw [walk.eq_def]
  refine (if_neg hloud).trans ((if_neg hup).trans ((if_neg hplain).trans ((if_neg hname).trans ?_)))
  rw [hnode]

theorem walk_loop {target : Bytes} (hstay : purpose ≠ .stay)
    (hnode : t.node? (start ++ [piece]) = some (.link target)) :
    t.walk purpose 0 start (piece :: rest) = .error .linkLoop := by
  rw [walk.eq_def]
  refine (if_neg hloud).trans ((if_neg hup).trans ((if_neg hplain).trans ((if_neg hname).trans ?_)))
  rw [hnode]
  exact if_neg fun h => hstay h.2

theorem walk_link {target : Bytes} (hstay : purpose ≠ .stay)
    (hnode : t.node? (start ++ [piece]) = some (.link target)) :
    t.walk purpose (links + 1) start (piece :: rest) =
      t.walk purpose links (if (Path.mk target).isAbsolute then [] else start)
      ((Path.mk target).pieces ++ rest) := by
  rw [walk.eq_def]
  refine (if_neg hloud).trans ((if_neg hup).trans ((if_neg hplain).trans ((if_neg hname).trans ?_)))
  rw [hnode]
  exact if_neg fun h => hstay h.2

end

/-! ## The way to a file -/

/-- Whoever is at the location has come through directories. -/
def Entered (t : FileTree) (l : Location) : Prop := ∀ above, above <+: l → t.node? above = some .dir

theorem Entered.root (t : FileTree) : t.Entered [] := by
  intro above habove
  rw [List.prefix_nil.1 habove]
  exact node?_root t

theorem Entered.dropLast {t : FileTree} {l : Location} (h : t.Entered l) : t.Entered l.dropLast :=
  fun above habove => h above (habove.trans (List.dropLast_prefix l))

theorem Entered.concat {t : FileTree} {l : Location} {piece : Bytes} (h : t.Entered l)
    (hnode : t.node? (l ++ [piece]) = some .dir) : t.Entered (l ++ [piece]) := by
  intro above habove
  obtain rfl | hbefore := List.prefix_concat_iff.1 habove
  · exact hnode
  · exact h above hbefore

/-- A file can be written at `l`: nothing is there, or a file. -/
structure Writable (t : FileTree) (l : Location) : Prop where
  ne_root : l ≠ []
  node : ∀ node, t.node? l = some node → ∃ content, node = .file content

theorem Writable.concat_of_none {t : FileTree} {l : Location} {name : Bytes}
    (hnode : t.node? (l ++ [name]) = none) :
    t.Writable (l ++ [name]) where
  ne_root := by simp
  node node hsome := by
    rw [hnode] at hsome
    cases hsome

theorem Writable.concat_of_file {t : FileTree} {l : Location} {name content : Bytes}
    (hnode : t.node? (l ++ [name]) = some (.file content)) : t.Writable (l ++ [name]) where
  ne_root := by simp
  node node hsome := by
    rw [hnode] at hsome
    cases hsome
    exact ⟨content, rfl⟩

/-- Directories and links stay what they are when a file is written. -/
theorem Writable.node?_put {t : FileTree} {l l' : Location} {node : FileNode} (hl : t.Writable l)
    (hnode : t.node? l' = some node) (hfile : ∀ content, node ≠ .file content) (content : Bytes) :
    (t.put l (.file content)).node? l' = some node := by
  rw [node?_put_of_ne, hnode]
  rintro rfl
  obtain ⟨content', rfl⟩ := hl.node node hnode
  exact hfile content' rfl

/-- Where a path leads that a file is to be written by: to a directory, or to where the file can be
written, and when it has been, the path leads there. -/
inductive Receives (t : FileTree) (content : Bytes) (links : ℕ) (start : Location)
    (pieces : List Bytes) :
    Place → Prop
  | dir {l : Location} (hnode : t.node? l = some .dir) :
      Receives t content links start pieces (.taken l)
  | file {l : Location} {place : Place} (hl : t.Writable l)
      (hplace : place = .free l ∨ place = .taken l)
      (hthere : (t.put l (.file content)).walk .follow links start pieces = .ok (.taken l)) :
      Receives t content links start pieces place

/-- A step on the way that is taken as well when the file has been written. -/
theorem Receives.step {t : FileTree} {content : Bytes} {links links' : ℕ} {start start' : Location}
    {pieces pieces' : List Bytes} {place : Place}
    (h : t.Receives content links' start' pieces' place)
    (hstep : ∀ l, t.Writable l → (t.put l (.file content)).walk .follow links start pieces =
      (t.put l (.file content)).walk .follow links' start' pieces') :
    t.Receives content links start pieces place := by
  cases h with
  | dir hnode => exact .dir hnode
  | file hl hplace hthere => exact .file hl hplace ((hstep _ hl).trans hthere)

theorem receives_of_walk {t : FileTree} {links : ℕ} {start : Location} {pieces : List Bytes}
    {place : Place} (hstart : t.Entered start)
    (hwalk : t.walk .create links start pieces = .ok place) (content : Bytes) :
    t.Receives content links start pieces place := by
  -- A file that is there may be followed by empty pieces, which a file to be created may not.
  have hfollow : ∀ rest : List Bytes,
      ¬ (Purpose.follow = .create ∧ rest ≠ [] ∧ rest.all List.isEmpty = true) := by
    simp
  induction links, start, pieces using FileTree.walk.induct t .create with
  | case1 links start =>
    rw [walk.eq_def] at hwalk
    cases hwalk
    exact .dir (hstart start (List.prefix_refl _))
  | case2 links start piece rest hsilent ih =>
    rw [walk_silent hsilent] at hwalk
    exact (ih hstart hwalk).step fun _ _ => walk_silent hsilent
  | case3 links start rest _ ih =>
    rw [walk_up] at hwalk
    exact (ih hstart.dropLast hwalk).step fun _ _ => walk_up
  | case4 links start piece rest hloud hup hbare =>
    rw [walk_bare hloud hup hbare] at hwalk
    cases hwalk
  | case5 links start piece rest hloud hup hplain hlong =>
    rw [walk_long hloud hup hplain hlong] at hwalk
    cases hwalk
  | case6 links start piece hloud hup hname hnode hplain =>
    rw [walk_free hloud hup hplain hname hnode, if_pos rfl] at hwalk
    cases hwalk
    have hl : t.Writable (start ++ [piece]) := .concat_of_none hnode
    refine .file hl (.inl rfl) ?_
    rw [walk_file hloud hup (hfollow []) hname (FileTree.node?_put hl.ne_root _), if_pos rfl]
  | case7 links start piece rest hloud hup hplain hname hnode hrest =>
    rw [walk_free hloud hup hplain hname hnode, if_neg hrest] at hwalk
    cases hwalk
  | case8 links start piece rest hloud hup hplain hname hnode ih =>
    rw [walk_dir hloud hup hplain hname hnode] at hwalk
    refine (ih (hstart.concat hnode) hwalk).step fun l hl => ?_
    exact walk_dir hloud hup (hfollow rest) hname (hl.node?_put hnode (by simp) content)
  | case9 links start piece hloud hup hname content' hnode hplain =>
    rw [walk_file hloud hup hplain hname hnode, if_pos rfl] at hwalk
    cases hwalk
    have hl : t.Writable (start ++ [piece]) := .concat_of_file hnode
    refine .file hl (.inr rfl) ?_
    rw [walk_file hloud hup (hfollow []) hname (FileTree.node?_put hl.ne_root _), if_pos rfl]
  | case10 links start piece rest hloud hup hplain hname content' hnode hrest =>
    rw [walk_file hloud hup hplain hname hnode, if_neg hrest] at hwalk
    cases hwalk
  | case11 links start piece rest hloud hup hplain hname target hnode hstay => cases hstay.2
  | case12 start piece rest hloud hup hplain hname target hnode =>
    rw [walk_loop hloud hup hplain hname (by decide) hnode] at hwalk
    cases hwalk
  | case13 start piece rest hloud hup hplain hname target hnode _ links ih =>
    rw [walk_link hloud hup hplain hname (by decide) hnode] at hwalk
    have hstart' : t.Entered (if (Path.mk target).isAbsolute then [] else start) := by
      split_ifs
      · exact .root t
      · exact hstart
    refine (ih hstart' hwalk).step fun l hl => ?_
    exact walk_link hloud hup (hfollow rest) hname (by decide)
      (hl.node?_put hnode (by simp) content)

/-! ## Reading -/

theorem permit_eq_ok {t : FileTree} {p : Path} {enough : Rights → Bool} :
    t.permit p enough = .ok () ↔ p.hasZero = false ∧ enough (t.rightsBy p) = true := by
  unfold permit
  cases p.hasZero <;> cases enough (t.rightsBy p) <;> simp

/-- A place that a path leads to is one that its pieces lead to. -/
theorem place_eq_ok {t : FileTree} {purpose : Purpose} {p : Path} {place : Place} :
    t.place purpose p = .ok place ↔ requireWhole p = .ok () ∧
    t.walk purpose maxLinks [] p.pieces = .ok place := by
  unfold FileTree.place
  cases requireWhole p with
  | error fault => simp [bind, Except.bind]
  | ok _ =>
    change (t.walk purpose maxLinks [] p.pieces).mapError _ = .ok place ↔ _
    cases t.walk purpose maxLinks [] p.pieces with
    | error e => simp [Except.mapError]
    | ok place' => simp [Except.mapError]

/-- A file that has been written is where the path leads from then on, and nothing else has changed.
-/
theorem exists_put_of_write {t t' : FileTree} {p : Path} {content : Bytes}
    (hwrite : t.write p content = .ok t') :
    ∃ l, t.Writable l ∧ t' = t.put l (.file content) ∧ t'.locate .follow p = .ok l ∧
      t.permit p (· = .full) = .ok () := by
  unfold write putFile at hwrite
  cases hpermit : t.permit p fun r => r = .full with
  | error fault =>
    rw [hpermit] at hwrite
    cases hwrite
  | ok _ =>
    cases hplace : t.place .create p with
    | error fault =>
      rw [hpermit, hplace] at hwrite
      cases hwrite
    | ok place =>
      rw [hpermit, hplace] at hwrite
      obtain ⟨hwhole, hwalk⟩ := place_eq_ok.1 hplace
      cases receives_of_walk (.root t) hwalk content with
      | dir hnode =>
        change (if t.node? _ = some .dir then _ else _) = Except.ok t' at hwrite
        rw [if_pos hnode] at hwrite
        cases hwrite
      | @file l _ hl hplace hthere =>
        have ht' : t' = t.put l (.file content) := by
          rcases hplace with rfl | rfl
          · cases hwrite
            rfl
          · have hnode : t.node? l ≠ some .dir := by
              intro hdir
              obtain ⟨_, hfile⟩ := hl.node _ hdir
              cases hfile
            change (if t.node? l = some .dir then _ else _) = Except.ok t' at hwrite
            rw [if_neg hnode] at hwrite
            cases hwrite
            rfl
        subst ht'
        refine ⟨l, hl, rfl, ?_, rfl⟩
        unfold locate
        rw [place_eq_ok.2 ⟨hwhole, hthere⟩]
        rfl

/-- What has been written is read. -/
theorem read_of_write {t t' : FileTree} {p : Path} {content : Bytes}
    (hwrite : t.write p content = .ok t') :
    t'.read p = .ok content := by
  obtain ⟨l, hl, rfl, hlocate, hpermit⟩ := exists_put_of_write hwrite
  obtain ⟨hzero, hrights⟩ := permit_eq_ok.1 hpermit
  have hread : (t.put l (.file content)).permit p (fun r => r ≠ .none) = .ok () := by
    refine permit_eq_ok.2 ⟨hzero, ?_⟩
    have hfull : t.rightsBy p = .full := by simpa using hrights
    change decide (t.rightsBy p ≠ .none) = true
    rw [hfull]
    rfl
  unfold read openToRead
  rw [hread, hlocate]
  change (t.put l (.file content)).contentAt l = .ok content
  rw [contentAt, FileTree.node?_put hl.ne_root]

end FileTree

/-! ## Attributes -/

namespace Text

theorem dropEndWhile_concat {p : Char → Bool} {c : Char} (hc : p c = true) (cs : List Char) :
    dropEndWhile p (cs ++ [c]) = dropEndWhile p cs :=
  List.rdropWhile_concat_pos p cs c hc

theorem dropEndWhile_of_forall {p : Char → Bool} {cs : List Char} (h : ∀ c ∈ cs, p c = false) :
    dropEndWhile p cs = cs := by
  refine List.rdropWhile_eq_self_iff.2 fun hne => ?_
  rw [h _ (List.getLast_mem hne)]
  exact Bool.false_ne_true

theorem trim_of_forall {cs : List Char} (h : ∀ c ∈ cs, isBlank c = false) : trim cs = cs := by
  have hstart : cs.dropWhile isBlank = cs := by
    refine List.dropWhile_eq_self_iff.2 fun hne => ?_
    rw [h _ (List.getElem_mem hne)]
    exact Bool.false_ne_true
  rw [trim, hstart, dropEndWhile_of_forall h]

theorem isBlank_of_isDigit {c : Char} (hc : c.isDigit = true) : isBlank c = false := by
  have hrange : 48 ≤ c.toNat ∧ c.toNat ≤ 57 := by
    simpa [Char.isDigit, UInt32.le_iff_toNat_le] using hc
  simp only [isBlank, blanks, List.any_cons, List.any_nil]
  simp
  omega

end Text

namespace DeviceDir

open Text

/-- The file of the attribute that holds the active configuration. -/
def configurationPath (d : DeviceDir) : Path := d.path.child "bConfigurationValue"

theorem read_of_selectConfiguration {d : DeviceDir} {files files' : FileTree} {value : UInt8}
    (hselect : d.selectConfiguration files value = .ok files') :
    files'.read d.configurationPath = .ok (Utf8.bytes (value.toNat.repr ++ "\n")) := by
  unfold selectConfiguration at hselect
  split at hselect
  · next hwrite =>
    cases hselect
    exact FileTree.read_of_write hwrite
  · cases hselect

theorem isLineEnd_of_isDigit {c : Char} (hc : c.isDigit = true) : isLineEnd c = false := by
  have hnewline : c ≠ '\n' := by
    rintro rfl
    exact absurd hc (by decide)
  have hreturn : c ≠ '\r' := by
    rintro rfl
    exact absurd hc (by decide)
  simp [isLineEnd, hnewline, hreturn]

/-- The end of the line in a file does not belong to the attribute. -/
theorem attr_of_read {d : DeviceDir} {files : FileTree} {name line : String}
    (hline : ∀ c ∈ line.toList, isLineEnd c = false)
    (hread : files.read (d.path.child name) = .ok (Utf8.bytes (line ++ "\n"))) :
    d.attr files name = .ok line := by
  have htext : files.readText (d.path.child name) = .ok (line ++ "\n") := by
    simp [FileTree.readText, hread, Utf8.text?_bytes, bind, Except.bind]
  have hend : (line ++ "\n").toList = line.toList ++ ['\n'] := String.toList_append
  have hdrop : dropEndWhile isLineEnd (line ++ "\n").toList = line.toList := by
    rw [hend, dropEndWhile_concat (by decide), dropEndWhile_of_forall hline]
  unfold attr
  rw [htext]
  exact congrArg Except.ok ((congrArg String.ofList hdrop).trans String.ofList_toList)

/-- A configuration that has been written to the attribute is read there as the active one. -/
theorem activeConfiguration_of_read {d : DeviceDir} {files : FileTree} {value : UInt8}
    (hread : files.read d.configurationPath = .ok (Utf8.bytes (value.toNat.repr ++ "\n"))) :
    d.activeConfiguration files = .ok value := by
  have hattr : d.attr files "bConfigurationValue" = .ok value.toNat.repr :=
    attr_of_read (fun c hc => isLineEnd_of_isDigit (isDigit_of_mem_repr hc)) hread
  refine number_eq_ok hattr ?_
  rw [trim_of_forall fun c hc => isBlank_of_isDigit (isDigit_of_mem_repr hc)]
  exact byte?_repr value

end DeviceDir

end UsbAccess
