import VisualRegression.Proofs.FileSystem.Making
import VisualRegression.Proofs.FileSystem.Operation

/-!
# File systems that grow by directories

All that there is is in a directory (`FileSystem.Tree`), and no operation changes this, whether or
not it is refused (`tree_of_reaches`).  While a directory is made with those above it, and files are
written in it, nothing else goes away, and what is new on the way to the directory are directories
(`Grows`).  A way that leads down from a directory that was there (`Downward`) ends as before: what
was missing on it may be there by now, but is empty.  Main statement: `Grows.readFile`.  On a way
that is blocked (`Blocked`) nothing can be made at all.
-/

namespace VisualRegression.FileSystem

/-- The names lead down, and a directory can have each of them. -/
def LeadDown (parts : List FilePath.Segment) : Prop :=
  ∀ part ∈ parts, part.name ≠ ".." ∧ part.name.utf8ByteSize ≤ FilePath.maxNameLength

theorem ne_up_of_leadDown {parts : List FilePath.Segment} (h : LeadDown parts) :
    ∀ part ∈ parts, part.name ≠ ".." :=
  fun part hmem => (h part hmem).1

/-- What is touched is not on a way that ends before it. -/
theorem not_touched_of_down {place : Place} {touched : Place → Prop}
    {part : FilePath.Segment} {rest : List FilePath.Segment} (hparts : LeadDown (part :: rest))
    (hfree : ∀ other, touched other → (walk place (part :: rest)).length ≤ other.length) :
    ¬ touched place := by
  intro ht
  have hle := hfree place ht
  have hlength := length_walk place (ne_up_of_leadDown hparts)
  rw [List.length_cons] at hlength
  omega

variable [WorkingDirectory]

variable {fs fs' fs₀ : FileSystem} {place target : Place} {name : String}
  {part : FilePath.Segment} {parts : List FilePath.Segment} {node : Node} {p dir : FilePath}
  {bytes : List UInt8}

/-! ## Trees -/

/-- **All that there is is in a directory.** -/
def Tree (fs : FileSystem) : Prop :=
  ∀ place name node, fs.node? (place ++ [name]) = some node → fs.node? place = some .directory

/-- What is above a place that is always there is always there. -/
theorem isGiven_of_append (h : isGiven (place ++ [name]) = true) : isGiven place = true :=
  isGiven_iff.2 ((List.prefix_append _ _).trans (isGiven_iff.1 h))

theorem tree_empty : empty.Tree := by
  intro place name node h
  by_cases hgiven : isGiven (place ++ [name]) = true
  · exact node?_of_isGiven _ (isGiven_of_append hgiven)
  · rw [node?, if_neg hgiven] at h
    cases h

/-- What is put into a directory leaves a tree, if no directory gives way to it. -/
theorem Tree.put (h : fs.Tree) (hplace : target = place ++ [name])
    (hdir : fs.node? place = some .directory) (hfree : fs.node? target ≠ some .directory)
    (node : Node) : (fs.put target node).Tree := by
  subst hplace
  have hne : place ≠ place ++ [name] := by
    intro heq
    have hlength := congrArg List.length heq
    rw [List.length_append, List.length_singleton] at hlength
    omega
  intro other last found hfound
  by_cases hsame : other ++ [last] = place ++ [name]
  · obtain ⟨rfl, -⟩ := List.append_inj' hsame rfl
    rw [node?_put_of_ne _ _ hne, hdir]
  · rw [node?_put_of_ne _ _ hsame] at hfound
    have hother := h other last found hfound
    have hneither : other ≠ place ++ [name] := by
      rintro rfl
      exact hfree hother
    rw [node?_put_of_ne _ _ hneither, hother]

/-- What is put into the working directory leaves a tree. -/
theorem Tree.put_here (h : fs.Tree)
    (hfree : fs.node? (WorkingDirectory.place ++ [name]) ≠ some .directory) (node : Node) :
    (fs.put (WorkingDirectory.place ++ [name]) node).Tree :=
  h.put rfl (node?_of_isGiven fs (isGiven_iff.2 List.prefix_rfl)) hfree node

/-- A file that is taken away leaves a tree. -/
theorem Tree.erase (h : fs.Tree) (hfile : fs.node? place ≠ some .directory) :
    Tree ⟨fs.entries.erase place⟩ := by
  intro other last found hfound
  have hother := h other last found (node?_of_erase hfound)
  have hne : other ≠ place := by
    rintro rfl
    exact hfile hother
  rw [node?_erase_of_ne hne, hother]

/-- A name that is to be given is one in a directory. -/
theorem exists_parent_of_locateParent (h : fs.locateParent p = .ok (place, some name))
    (hn : fs.enter place name = .ok target) :
    p.place = place ++ [name] ∧ fs.node? place = some .directory := by
  obtain ⟨hplace, -⟩ := locate_of_locateParent h hn
  obtain ⟨hdir, htarget⟩ := enter_eq_ok hn
  refine ⟨?_, hdir⟩
  have hup : name ≠ ".." := by
    rintro rfl
    unfold locateParent at h
    split at h
    · cases h
    · split at h
      · cases h
      · obtain ⟨next, -, h⟩ := bind_eq_ok.1 h
        split at h
        · cases h
        · cases h
        · split at h
          · cases h
          · rename_i hne
            exact hne (Option.some.inj (Prod.ext_iff.1 (Except.ok.inj h)).2)
  rw [← hplace, htarget, if_neg hup]

theorem Tree.makeDirectory (h : fs.Tree) (hmake : fs.makeDirectory p = .ok fs') : fs'.Tree := by
  obtain ⟨-, hnone, rfl⟩ := makeDirectory_eq_ok hmake
  obtain ⟨⟨place, _ | name⟩, hl, hmake⟩ := bind_eq_ok.1 hmake
  · cases hmake
  · obtain ⟨target, hn, -⟩ := bind_eq_ok.1 hmake
    obtain ⟨hplace, hdir⟩ := exists_parent_of_locateParent hl hn
    exact h.put hplace hdir (ne_directory_of_none hnone) _

theorem Tree.writeFile (h : fs.Tree) (hwrite : fs.writeFile p bytes = .ok fs') : fs'.Tree := by
  obtain ⟨-, -, hfree, rfl⟩ := writeFile_eq_ok hwrite
  obtain ⟨⟨place, _ | name⟩, hl, hwrite⟩ := bind_eq_ok.1 hwrite
  · cases hwrite
  · dsimp only at hwrite
    split at hwrite
    · cases hwrite
    · obtain ⟨target, hn, -⟩ := bind_eq_ok.1 hwrite
      obtain ⟨hplace, hdir⟩ := exists_parent_of_locateParent hl hn
      exact h.put hplace hdir hfree _

theorem Tree.appendFile (h : fs.Tree) (happend : fs.appendFile p bytes = .ok fs') : fs'.Tree := by
  obtain ⟨old, hread, rfl⟩ := appendFile_eq_ok happend
  have hfile := (find_eq_file.1 (readFile_eq_ok.1 hread)).2.1
  have hfree := ne_directory_of_find (readFile_eq_ok.1 hread)
  -- a file that is there has a name in a directory
  obtain ⟨place, name, hplace⟩ : ∃ place name, p.place = place ++ [name] := by
    rcases List.eq_nil_or_concat p.place with hnil | ⟨place, name, hplace⟩
    · exact absurd (by rw [hnil]; exact node?_of_isGiven _ (isGiven_iff.2 List.nil_prefix)) hfree
    · exact ⟨place, name, by rw [hplace, List.concat_eq_append]⟩
  rw [hplace] at hfile
  exact h.put hplace (h place name _ hfile) hfree _

theorem Tree.moveFile {source target : FilePath} (h : fs.Tree)
    (hmove : fs.moveFile source target = .ok fs') : fs'.Tree := by
  obtain ⟨moved, hfind, -, hfree, rfl⟩ := moveFile_eq_ok hmove
  have hsource := ne_directory_of_find hfind
  obtain ⟨_, -, hmove⟩ := bind_eq_ok.1 hmove
  rw [hfind, ok_bind] at hmove
  dsimp only at hmove
  obtain ⟨⟨place, _ | name⟩, hl, hmove⟩ := bind_eq_ok.1 hmove
  · cases hmove
  · obtain ⟨_, hn, -⟩ := bind_eq_ok.1 hmove
    obtain ⟨hplace, hdir⟩ := exists_parent_of_locateParent hl hn
    -- the directory is still there once the file is taken away
    exact (h.erase hsource).put hplace (directoriesIn_erase hsource _ hdir)
      (fun hx => hfree (node?_of_erase hx)) _

/-- **No operation makes anything but a tree out of one.** -/
theorem Tree.perform (h : fs.Tree) (op : FileOperation) : (op.perform fs).2.Tree := by
  have hsettle : ∀ answer : Except FileFault FileSystem,
      (∀ fs', answer = .ok fs' → fs'.Tree) → (fs.settle answer).2.Tree := by
    intro answer hanswer
    cases answer with
    | error fault => exact h
    | ok fs' => exact hanswer fs' rfl
  cases op with
  | makeDirectory p => exact hsettle _ fun _ => h.makeDirectory
  | findDirectory p => exact h
  | clear p => exact hsettle _ fun _ => h.writeFile
  | append p byte => exact hsettle _ fun _ => h.appendFile
  | flush p => exact h
  | move source target => exact hsettle _ fun _ => h.moveFile

/-- **A program leaves a tree**, wherever it stands and whatever was refused. -/
theorem tree_of_reaches {α : Type} {a b : FileProgram α × FileSystem} (h : a.2.Tree)
    (hreaches : FileProgram.Reaches a b) : b.2.Tree := by
  induction hreaches with
  | refl => exact h
  | tail _ hturn ih =>
    cases hturn with
    | performed op next fs => exact ih.perform op
    | refused => exact ih

/-! ## Growth -/

/-- **Nothing goes away but what is touched, and what is new are directories on the way to a
directory.** -/
structure Grows (dir : FilePath) (touched : Place → Prop) (fs fs' : FileSystem) : Prop where
  directories : DirectoriesIn fs fs'
  files : ∀ place bytes, ¬ touched place → fs.node? place = some (.file bytes) →
    fs'.node? place = some (.file bytes)
  missing : ∀ place, ¬ touched place → fs.node? place = none →
    fs'.node? place = none ∨ fs'.node? place = some .directory ∧ place ∈ placesAlong dir

section Grows

variable {touched touched' : Place → Prop}

theorem Grows.refl (dir : FilePath) (touched : Place → Prop) (fs : FileSystem) :
    Grows dir touched fs fs where
  directories _ h := h
  files _ _ _ h := h
  missing _ _ h := .inl h

theorem Grows.mono (h : Grows dir touched fs fs')
    (hmore : ∀ place, touched place → touched' place) :
    Grows dir touched' fs fs' where
  directories := h.directories
  files place bytes hplace := h.files place bytes fun ht => hplace (hmore place ht)
  missing place hplace := h.missing place fun ht => hplace (hmore place ht)

/-- One more directory on the way is made. -/
theorem Grows.put_directory (h : Grows dir touched fs₀ fs) (hnone : fs.node? place = none)
    (hway : place ∈ placesAlong dir) : Grows dir touched fs₀ (fs.put place .directory) := by
  have hfree := ne_directory_of_none hnone
  refine ⟨h.directories.trans (directoriesIn_put hfree _), ?_, ?_⟩
  · intro other bytes hother hfile
    have hkept := h.files other bytes hother hfile
    have hne : other ≠ place := by
      rintro rfl
      rw [hnone] at hkept
      cases hkept
    rw [node?_put_of_ne _ _ hne, hkept]
  · intro other hother hmissing
    by_cases heq : other = place
    · rw [heq]
      exact .inr ⟨node?_put_self _ _ (isGiven_eq_false hfree), hway⟩
    · rw [node?_put_of_ne _ _ heq]
      exact h.missing other hother hmissing

/-- What is touched has no say. -/
theorem Grows.of_untouched (h : Grows dir touched fs₀ fs) (hdirs : DirectoriesIn fs fs')
    (hsame : ∀ other, ¬ touched other → fs'.node? other = fs.node? other) :
    Grows dir touched fs₀ fs' where
  directories := h.directories.trans hdirs
  files other bytes hother hfile := by
    rw [hsame other hother, h.files other bytes hother hfile]
  missing other hother hmissing := by
    rw [hsame other hother]
    exact h.missing other hother hmissing

end Grows

/-! ## Looking from a directory on -/

/-- What names lead to from a place. -/
def look (fs : FileSystem) (place : Place) (parts : List FilePath.Segment) :
    Except FileFault Node := do
  match fs.node? (← fs.follow place parts) with
  | none => .error .notFound
  | some node => .ok node

theorem look_cons (fs : FileSystem) (place : Place) (part : FilePath.Segment)
    (rest : List FilePath.Segment) :
    fs.look place (part :: rest) = fs.enter place part.name >>= fun next => fs.look next rest := by
  unfold look
  rw [follow]
  rcases fs.enter place part.name with fault | next <;> rfl

theorem look_append (h : fs.follow place parts = .ok target) (more : List FilePath.Segment) :
    fs.look place (parts ++ more) = fs.look target more := by
  unfold look
  rw [follow_append h]

theorem find_eq_look (fs : FileSystem) (h : p.asDirectory = false) :
    fs.find p =
      match p.fault? with
      | some fault => .error fault
      | none => fs.look (start p) p.parts := by
  unfold find locate look
  rcases p.fault? with _ | fault
  · rcases fs.follow (start p) p.parts with fault | target
    · rfl
    · simp only [ok_bind]
      rcases fs.node? target with _ | _ | _
      · rfl
      · simp only [h]
        rfl
      · rfl
  · rfl

/-- From where names lead to a directory they lead through directories. -/
theorem directory_along (h : fs.follow place parts = .ok target)
    (hdir : fs.node? target = some .directory) :
    ∀ other ∈ place :: placesAlong.go place parts, fs.node? other = some .directory := by
  induction parts generalizing place with
  | nil =>
    cases h
    intro other hmem
    rw [List.mem_singleton.1 hmem, hdir]
  | cons part rest ih =>
    obtain ⟨next, hn, hr⟩ := follow_cons_eq_ok.1 h
    obtain ⟨hplace, rfl⟩ := enter_eq_ok hn
    intro other hmem
    rcases List.mem_cons.1 hmem with rfl | hmem
    · exact hplace
    · exact ih hr other hmem

theorem enter_down (hdir : fs.node? place = some .directory)
    (hname : name ≠ ".." ∧ name.utf8ByteSize ≤ FilePath.maxNameLength) :
    fs.enter place name = .ok (place ++ [name]) := by
  unfold enter
  rw [hdir]
  dsimp only
  rw [if_neg hname.1, if_neg (Nat.not_lt.2 hname.2)]

section Down

variable {touched : Place → Prop}

/-- **Below what was missing there is nothing**, even if directories have been made by now. -/
theorem look_of_missing (htree : fs₀.Tree) (hgrows : Grows dir touched fs₀ fs)
    (hparts : LeadDown parts)
    (hfree : ∀ other, touched other → (walk place parts).length ≤ other.length)
    (hend : fs.node? (walk place parts) = fs₀.node? (walk place parts))
    (hnone : fs₀.node? place = none) : fs.look place parts = .error .notFound := by
  induction parts generalizing place with
  | nil =>
    have hnone' : fs.node? place = none := hend.trans hnone
    show (match fs.node? place with
      | none => Except.error FileFault.notFound
      | some node => .ok node) = _
    rw [hnone']
  | cons part rest ih =>
    have hname := hparts part List.mem_cons_self
    have hrest : LeadDown rest := fun other hmem => hparts other (List.mem_cons_of_mem _ hmem)
    have huntouched := not_touched_of_down hparts hfree
    rw [walk, if_neg hname.1] at hfree hend
    rw [look_cons]
    rcases hgrows.missing place huntouched hnone with hstill | ⟨hdir, -⟩
    · unfold enter
      rw [hstill]
      rfl
    · rw [enter_down hdir hname, ok_bind]
      refine ih hrest hfree hend ?_
      -- what is below a missing directory is missing in a tree
      rcases hnext : fs₀.node? (place ++ [part.name]) with _ | node
      · rfl
      · rw [htree place part.name node hnext] at hnone
        cases hnone

/-- **A way down ends as before.** -/
theorem look_of_grows (htree : fs₀.Tree) (hgrows : Grows dir touched fs₀ fs)
    (hparts : LeadDown parts)
    (hfree : ∀ other, touched other → (walk place parts).length ≤ other.length)
    (hend : fs.node? (walk place parts) = fs₀.node? (walk place parts)) :
    fs.look place parts = fs₀.look place parts := by
  induction parts generalizing place with
  | nil =>
    have hsame : fs.node? place = fs₀.node? place := hend
    show (match fs.node? place with
      | none => Except.error FileFault.notFound
      | some node => .ok node) = _
    rw [hsame]
    rfl
  | cons part rest ih =>
    have hname := hparts part List.mem_cons_self
    have hrest : LeadDown rest := fun other hmem => hparts other (List.mem_cons_of_mem _ hmem)
    have huntouched := not_touched_of_down hparts hfree
    rcases hnode : fs₀.node? place with _ | bytes | _
    · rw [look_of_missing htree hgrows hparts hfree hend hnode, look_cons, enter, hnode]
      rfl
    · rw [look_cons, look_cons, enter, enter, hnode,
        hgrows.files place bytes huntouched hnode]
      rfl
    · rw [walk, if_neg hname.1] at hfree hend
      rw [look_cons, look_cons, enter_down hnode hname,
        enter_down (hgrows.directories place hnode) hname, ok_bind, ok_bind]
      exact ih hrest hfree hend

/-- **A directory that a way leads down to**, from one that is there. -/
def Downward (fs : FileSystem) (dir : FilePath) : Prop :=
  ∃ here below, dir.parts = here ++ below ∧ fs.There ⟨dir.absolute, here, []⟩ ∧ LeadDown below

theorem Downward.mono (h : Downward fs dir) (hd : DirectoriesIn fs fs') : Downward fs' dir := by
  obtain ⟨here, below, hparts, hthere, hbelow⟩ := h
  exact ⟨here, below, hparts, hthere.mono hd, hbelow⟩

/-- What is in the directory is not on the way to it, unless it was there before. -/
theorem node?_below_of_grows (hgrows : Grows dir touched fs₀ fs) (hdown : Downward fs₀ dir)
    (huntouched : ¬ touched (dir.place ++ [name])) :
    fs.node? (dir.place ++ [name]) = fs₀.node? (dir.place ++ [name]) := by
  rcases hnode : fs₀.node? (dir.place ++ [name]) with _ | bytes | _
  · rcases hgrows.missing _ huntouched hnode with hnone | ⟨-, hway⟩
    · exact hnone
    · exfalso
      obtain ⟨here, below, hparts, hthere, hbelow⟩ := hdown
      have hplace : dir.place = walk (walk (start dir) here) below := by
        show walk (start dir) dir.parts = _
        rw [hparts, walk_append]
      rw [placesAlong, hparts, go_append] at hway
      rcases List.mem_append.1 hway with hhere | hlower
      · have hdir := directory_along hthere.follow hthere.directory _
          (List.mem_cons_of_mem _ hhere)
        rw [hnode] at hdir
        cases hdir
      · have hle := length_le_of_mem_go (ne_up_of_leadDown hbelow) hlower
        rw [← hplace, List.length_append, List.length_singleton] at hle
        omega
  · exact hgrows.files _ _ huntouched hnode
  · exact hgrows.directories _ hnode

/-- **A file reads as before** while the directory is made in which it would be. -/
theorem Grows.readFile (hgrows : Grows dir touched fs₀ fs) (htree : fs₀.Tree)
    (hdown : Downward fs₀ dir) (htouched : ∀ other, touched other → dir.place.length < other.length)
    (hname : name ≠ ".." ∧ name.utf8ByteSize ≤ FilePath.maxNameLength)
    (huntouched : ¬ touched (dir.place ++ [name])) :
    fs.readFile (dir.join name) = fs₀.readFile (dir.join name) := by
  have hend := node?_below_of_grows hgrows hdown huntouched
  obtain ⟨here, below, hparts, hthere, hbelow⟩ := hdown
  have hfollow : fs₀.follow (start dir) here = .ok (walk (start dir) here) := hthere.follow
  have hplace : walk (walk (start dir) here) (below ++ [dir.entry name]) = dir.place ++ [name] := by
    rw [← walk_append, ← List.append_assoc, ← hparts]
    exact place_join_of_ne_up dir hname.1
  have hdown : LeadDown (below ++ [dir.entry name]) := by
    intro other hmem
    rcases List.mem_append.1 hmem with hmem | hmem
    · exact hbelow other hmem
    · rw [List.mem_singleton.1 hmem]
      exact hname
  have hlook : fs.look (start dir) (here ++ (below ++ [dir.entry name])) =
      fs₀.look (start dir) (here ++ (below ++ [dir.entry name])) := by
    rw [look_append hfollow, look_append (follow_mono hgrows.directories hfollow)]
    refine look_of_grows htree hgrows hdown ?_ ?_
    · intro other ht
      rw [hplace, List.length_append, List.length_singleton]
      exact htouched other ht
    · rw [hplace, hend]
  have hfind : fs.find (dir.join name) = fs₀.find (dir.join name) := by
    have hjoined : (dir.join name).parts = here ++ (below ++ [dir.entry name]) := by
      show dir.parts ++ [dir.entry name] = _
      rw [hparts, List.append_assoc]
    rw [find_eq_look fs rfl, find_eq_look fs₀ rfl, hjoined]
    show (match (dir.join name).fault? with
      | some fault => Except.error fault
      | none => fs.look (start dir) (here ++ (below ++ [dir.entry name]))) = _
    rw [hlook]
    rfl
  unfold FileSystem.readFile
  rw [hfind]

end Down

/-! ## Ways that are blocked -/

/-- **A way that leads nowhere**, and not for want of a directory. -/
def Blocked (fs : FileSystem) (dir : FilePath) : Prop :=
  ∃ fault, fault ≠ .notFound ∧ fs.follow (start dir) dir.parts = .error fault

/-- No directory can be made on the way. -/
theorem makeDirectory_of_blocked (h : fs.Blocked dir) {up : List FilePath.Segment}
    (hup : up <:+ dir.parts.reverse) :
    fs.makeDirectory ⟨dir.absolute, up.reverse, []⟩ ≠ .ok fs' := by
  intro hmake
  obtain ⟨hlocate, hnone, -⟩ := makeDirectory_eq_ok hmake
  have hfollow : fs.follow (start dir) up.reverse = .ok _ := (locate_eq_ok.1 hlocate).2
  obtain ⟨fault, hfault, hblocked⟩ := h
  obtain ⟨below, hbelow⟩ := hup
  have hparts : dir.parts = up.reverse ++ below.reverse := by
    rw [← List.reverse_append, hbelow, List.reverse_reverse]
  rw [hparts, follow_append hfollow] at hblocked
  -- what is missing would be the fault of the way, if it led on from there
  rcases hrest : below.reverse with _ | ⟨part, rest⟩
  · rw [hrest] at hblocked
    cases hblocked
  · rw [hrest, follow, enter, hnone] at hblocked
    cases hblocked
    exact hfault rfl

/-- And no file can be written there. -/
theorem writeFile_of_blocked (h : fs.Blocked dir) :
    fs.writeFile (dir.join name) bytes ≠ .ok fs' := by
  intro hwrite
  obtain ⟨hlocate, -⟩ := writeFile_eq_ok hwrite
  have hfollow : fs.follow (start dir) (dir.parts ++ [dir.entry name]) = .ok _ :=
    (locate_eq_ok.1 hlocate).2
  obtain ⟨next, hnext, -⟩ := exists_of_follow_append hfollow
  obtain ⟨fault, -, hblocked⟩ := h
  rw [hnext] at hblocked
  cases hblocked

/-- **A way that is settled**, whatever directories are made on it: it leads down from a directory
that is there, or it is blocked. -/
def Steady (fs : FileSystem) (dir : FilePath) : Prop := fs.Downward dir ∨ fs.Blocked dir

end VisualRegression.FileSystem
