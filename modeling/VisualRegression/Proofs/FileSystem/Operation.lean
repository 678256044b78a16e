import Mathlib.Logic.Relation
import VisualRegression.Proofs.FileSystem.Effect
import VisualRegression.Proofs.Ordered.Map

/-!
# Files that are written one operation after the other

To write a file takes many operations, and the disk may refuse each of them or do it.  A program of
operations says what to ask next, given the answers so far (`FileProgram`); it is run in turns, one
operation at a time, with a choice at each of them whether it is refused (`FileProgram.Turn`).  What
holds at every turn is shown along the program (`FileProgram.Always`): `always_of_turn` is the step
and `holds_of_reaches` the run.  On a disk that refuses nothing a program has one course
(`FileProgram.run`), and by `run_making` and `run_rewriting` directories and files come out as they
do when they are made at one go.
-/

namespace VisualRegression

/-- What is put last is there. -/
theorem FileSystem.put_put (fs : FileSystem) (place : Place) (node node' : Node) :
    (fs.put place node).put place node' = fs.put place node' := by
  refine congrArg FileSystem.mk (OrderedMap.ext_get? fun other => ?_)
  by_cases hother : other = place
  · rw [hother]
    exact (OrderedMap.get?_insert_self _ _ _).trans (OrderedMap.get?_insert_self _ _ _).symm
  · show ((fs.entries.insert place node).insert place node').get? other =
      (fs.entries.insert place node').get? other
    rw [OrderedMap.get?_insert_of_ne _ _ hother, OrderedMap.get?_insert_of_ne _ _ hother,
      OrderedMap.get?_insert_of_ne _ _ hother]

variable [WorkingDirectory]

/-! ## Operations -/

namespace FileSystem

/-- Adds to a file that is there. -/
def appendFile (fs : FileSystem) (p : FilePath) (bytes : List UInt8) :
    Except FileFault FileSystem := do
  let place ← fs.locate p
  match ← fs.find p with
  | .directory => .error .isDirectory
  | .file old => .ok (fs.put place (.file (old ++ bytes)))

/-- The answer of an operation that may fail, and the files after it. -/
def settle (fs : FileSystem) : Except FileFault FileSystem → Except FileFault Unit × FileSystem
  | .error fault => (.error fault, fs)
  | .ok fs' => (.ok (), fs')

end FileSystem

/-- What can be asked of a disk. -/
inductive FileOperation where
  /-- Makes a directory whose parent is there. -/
  | makeDirectory (p : FilePath)
  /-- Looks whether there is a directory. -/
  | findDirectory (p : FilePath)
  /-- Makes an empty file, or empties the one that is there. -/
  | clear (p : FilePath)
  /-- Adds a byte to a file. -/
  | append (p : FilePath) (byte : UInt8)
  /-- Waits until a file is on the disk. -/
  | flush (p : FilePath)
  /-- Gives a file a new path; a file that is there gives way to it. -/
  | move (source target : FilePath)

/-- What an operation does that is not refused. -/
def FileOperation.perform (fs : FileSystem) :
    FileOperation → Except FileFault Unit × FileSystem
  | makeDirectory p => fs.settle (fs.makeDirectory p)
  | findDirectory p => (if fs.isDirectory p then .ok () else .error .notDirectory, fs)
  | clear p => fs.settle (fs.writeFile p [])
  | append p byte => fs.settle (fs.appendFile p [byte])
  | flush _ => (.ok (), fs)
  | move source target => fs.settle (fs.moveFile source target)

/-- A course of operations that ends with an `α`. -/
inductive FileProgram (α : Type) where
  /-- The end. -/
  | done (a : α)
  /-- Asks for an operation. -/
  | ask (op : FileOperation) (next : Except FileFault Unit → FileProgram α)

namespace FileProgram

variable {α β : Type}

/-- The first program and then, given its end, the second. -/
def bind : FileProgram α → (α → FileProgram β) → FileProgram β
  | done a, f => f a
  | ask op next, f => ask op fun answer => (next answer).bind f

/-- Goes on unless the first program ended with a fault. -/
def andThen (p q : FileProgram (Except FileFault Unit)) : FileProgram (Except FileFault Unit) :=
  p.bind fun
    | .ok () => q
    | .error fault => done (.error fault)

/-- A single operation. -/
def once (op : FileOperation) : FileProgram (Except FileFault Unit) := ask op done

/-- The course of the program on a disk that refuses nothing. -/
def run : FileProgram α → FileSystem → α × FileSystem
  | done a, fs => (a, fs)
  | ask op next, fs => (next (op.perform fs).1).run (op.perform fs).2

/-- **One turn of a program**: the operation that it asks for is done, or it is refused for whatever
reason and has no effect. -/
inductive Turn : FileProgram α × FileSystem → FileProgram α × FileSystem → Prop
  | performed (op : FileOperation) (next : Except FileFault Unit → FileProgram α)
      (fs : FileSystem) : Turn (ask op next, fs) (next (op.perform fs).1, (op.perform fs).2)
  | refused (op : FileOperation) (next : Except FileFault Unit → FileProgram α)
      (fs : FileSystem) (fault : FileFault) : Turn (ask op next, fs) (next (.error fault), fs)

/-- What becomes of a program and the files in any number of turns. -/
abbrev Reaches : FileProgram α × FileSystem → FileProgram α × FileSystem → Prop :=
  Relation.ReflTransGen Turn

/-- The course on a disk that refuses nothing is one of those that there are. -/
theorem reaches_run (p : FileProgram α) (fs : FileSystem) :
    Reaches (p, fs) (done (p.run fs).1, (p.run fs).2) := by
  induction p generalizing fs with
  | done a => exact .refl
  | ask op next ih => exact .head (.performed op next fs) (ih _ _)

/-- The end of the program on a disk that refuses everything for one reason. -/
def runRefused (fault : FileFault) : FileProgram α → α
  | done a => a
  | ask _ next => (next (.error fault)).runRefused fault

/-- A disk that refuses everything keeps its files. -/
theorem reaches_runRefused (p : FileProgram α) (fs : FileSystem) (fault : FileFault) :
    Reaches (p, fs) (done (p.runRefused fault), fs) := by
  induction p with
  | done a => exact .refl
  | ask op next ih => exact .head (.refused op next fs fault) (ih _)

theorem run_bind (p : FileProgram α) (f : α → FileProgram β) (fs : FileSystem) :
    (p.bind f).run fs = (f (p.run fs).1).run (p.run fs).2 := by
  induction p generalizing fs with
  | done a => rfl
  | ask op next ih => exact ih _ _

theorem run_andThen (p q : FileProgram (Except FileFault Unit)) (fs : FileSystem) :
    (p.andThen q).run fs =
      match p.run fs with
      | (.ok (), fs') => q.run fs'
      | (.error fault, fs') => (.error fault, fs') := by
  rw [andThen, run_bind]
  rcases p.run fs with ⟨_ | ⟨⟩, fs'⟩ <;> rfl

/-! ## What holds at every turn -/

/-- **At each turn, whatever is refused, the files are as `P` says**, and at the end of the program
they and its answer are as `Q` says. -/
def Always (P : FileSystem → Prop) (Q : α → FileSystem → Prop) : FileProgram α → FileSystem → Prop
  | done a, fs => P fs ∧ Q a fs
  | ask op next, fs =>
    P fs ∧ Always P Q (next (op.perform fs).1) (op.perform fs).2 ∧
      ∀ fault, Always P Q (next (.error fault)) fs

section Always

variable {P : FileSystem → Prop} {Q : α → FileSystem → Prop} {p p' : FileProgram α}
  {fs fs' : FileSystem}

theorem Always.now (h : Always P Q p fs) : P fs := by
  cases p with
  | done a => exact h.1
  | ask op next => exact h.1

/-- **The step**: a turn leads from such a program to such a program. -/
theorem always_of_turn (h : Always P Q p fs) (hturn : Turn (p, fs) (p', fs')) :
    Always P Q p' fs' := by
  cases hturn with
  | performed => exact h.2.1
  | refused op next _ fault => exact h.2.2 fault

/-- **The run**: what holds at every turn holds of all that a program comes to. -/
theorem holds_of_reaches (h : Always P Q p fs) (hreaches : Reaches (p, fs) (p', fs')) :
    P fs' ∧ ∀ a, p' = done a → Q a fs' := by
  have halways : Always P Q p' fs' := by
    generalize hend : (p', fs') = reached at hreaches
    induction hreaches generalizing p' fs' with
    | refl =>
      cases hend
      exact h
    | @tail between _ hbetween hturn ih =>
      obtain ⟨p₁, fs₁⟩ := between
      subst hend
      exact always_of_turn (ih rfl) hturn
  refine ⟨halways.now, ?_⟩
  rintro a rfl
  exact halways.2

theorem Always.mono {Q' : α → FileSystem → Prop} (h : Always P Q p fs)
    (hend : ∀ a fs', Q a fs' → Q' a fs') : Always P Q' p fs := by
  induction p generalizing fs with
  | done a => exact ⟨h.1, hend a fs h.2⟩
  | ask op next ih => exact ⟨h.1, ih _ h.2.1, fun fault => ih _ (h.2.2 fault)⟩

/-- Of the files alone, nothing has to hold. -/
theorem always_true (p : FileProgram α) (fs : FileSystem) :
    Always (fun _ => True) (fun _ _ => True) p fs := by
  induction p generalizing fs with
  | done a => exact ⟨trivial, trivial⟩
  | ask op next ih => exact ⟨trivial, ih _ _, fun fault => ih _ fs⟩

/-- What holds at the end of a first program is what a second one may begin with. -/
theorem Always.bind {R : β → FileSystem → Prop} {f : α → FileProgram β} (h : Always P Q p fs)
    (hf : ∀ a fs', Q a fs' → Always P R (f a) fs') : Always P R (p.bind f) fs := by
  induction p generalizing fs with
  | done a => exact hf a fs h.2
  | ask op next ih => exact ⟨h.1, ih _ h.2.1, fun fault => ih _ (h.2.2 fault)⟩

/-- Something holds after a program that ended well, and something else after one that failed. -/
def Ends (good bad : FileSystem → Prop) : Except FileFault Unit → FileSystem → Prop
  | .ok () => good
  | .error _ => bad

theorem Always.andThen {good later bad : FileSystem → Prop}
    {p q : FileProgram (Except FileFault Unit)} (h : Always P (Ends good bad) p fs)
    (hbad : ∀ fs', bad fs' → P fs') (hq : ∀ fs', good fs' → Always P (Ends later bad) q fs') :
    Always P (Ends later bad) (p.andThen q) fs := by
  refine h.bind fun answer fs' hend => ?_
  rcases answer with fault | ⟨⟩
  · exact ⟨hbad fs' hend, hend⟩
  · exact hq fs' hend

/-- A single operation, which may be refused. -/
theorem always_once {op : FileOperation} {good bad : FileSystem → Prop}
    (hbad : ∀ fs', bad fs' → P fs') (hgood : ∀ fs', good fs' → P fs') (hnow : bad fs)
    (hthen : Ends good bad (op.perform fs).1 (op.perform fs).2) :
    Always P (Ends good bad) (once op) fs := by
  refine ⟨hbad fs hnow, ⟨?_, hthen⟩, fun fault => ⟨hbad fs hnow, hnow⟩⟩
  rcases hperform : op.perform fs with ⟨fault | ⟨⟩, fs'⟩
  all_goals rw [hperform] at hthen
  · exact hbad fs' hthen
  · exact hgood fs' hthen

end Always

/-! ## Directories and files -/

/-- What comes of a directory that could not be made: nothing is lost if it is there. -/
def unlessThere (p : FilePath) (fault : FileFault) : FileProgram (Except FileFault Unit) :=
  ask (.findDirectory p) fun
    | .ok () => done (.ok ())
    | .error _ => done (.error fault)

/-- Makes a directory, or does something else if the one above it is missing. -/
def attempt (p : FilePath) (otherwise : FileProgram (Except FileFault Unit)) :
    FileProgram (Except FileFault Unit) :=
  ask (.makeDirectory p) fun
    | .ok () => done (.ok ())
    | .error .notFound => otherwise
    | .error fault => unlessThere p fault

/-- Makes the directory that names lead to, in reverse order, and those above it. -/
def making (absolute : Bool) : List FilePath.Segment → FileProgram (Except FileFault Unit)
  | [] => done (.ok ())
  | part :: up =>
    let p : FilePath := ⟨absolute, (part :: up).reverse, []⟩
    -- where the directory above is missing it is made first, and then there is a second try
    attempt p ((making absolute up).andThen (attempt p (unlessThere p .notFound)))

/-- Adds bytes to a file, one at a time. -/
def filling (p : FilePath) : List UInt8 → FileProgram (Except FileFault Unit)
  | [] => done (.ok ())
  | byte :: rest => (once (.append p byte)).andThen (filling p rest)

/-- Writes a file, one byte at a time; a file that is there gives way to it. -/
def rewriting (p : FilePath) (bytes : List UInt8) : FileProgram (Except FileFault Unit) :=
  (once (.clear p)).andThen (filling p bytes)

end FileProgram

namespace FileSystem

open FileProgram

variable {fs fs' : FileSystem} {p : FilePath} {bytes more : List UInt8}

theorem appendFile_eq_ok (h : fs.appendFile p more = .ok fs') :
    ∃ bytes, fs.readFile p = .ok bytes ∧
      fs' = fs.put p.place (.file (bytes ++ more)) := by
  obtain ⟨place, hp, h⟩ := bind_eq_ok.1 h
  obtain rfl := eq_place_of_locate hp
  obtain ⟨old | _, hf, h⟩ := bind_eq_ok.1 h
  · cases h
    exact ⟨old, readFile_eq_ok.2 hf, rfl⟩
  · cases h

theorem appendFile_of_readFile (h : fs.readFile p = .ok bytes) :
    fs.appendFile p more = .ok (fs.put p.place (.file (bytes ++ more))) := by
  have hf := readFile_eq_ok.1 h
  unfold appendFile
  rw [(find_eq_file.1 hf).1, ok_bind, hf]
  rfl

/-- **What was added to a file is read behind what was there.** -/
theorem readFile_appendFile (h : fs.appendFile p more = .ok fs')
    (hread : fs.readFile p = .ok bytes) :
    fs'.readFile p = .ok (bytes ++ more) := by
  obtain ⟨old, hold, rfl⟩ := appendFile_eq_ok h
  rw [hread] at hold
  cases hold
  obtain ⟨hp, hn, ha⟩ := find_eq_file.1 (readFile_eq_ok.1 hread)
  have hd := ne_directory_of_find (readFile_eq_ok.1 hread)
  exact readFile_eq_ok.2 (find_eq_file.2
    ⟨locate_mono (directoriesIn_put hd _) hp, node?_put_self _ _ (isGiven_eq_false hd), ha⟩)

/-- **Whether a file can be written does not depend on what is to be in it.** -/
theorem exists_writeFile_eq (fs : FileSystem) (p : FilePath) :
    ∃ answer : Except FileFault Unit, ∀ bytes,
      fs.writeFile p bytes = answer.map fun _ => fs.put p.place (.file bytes) := by
  unfold writeFile
  rcases hl : fs.locateParent p with fault | ⟨dir, _ | name⟩
  · exact ⟨.error fault, fun _ => rfl⟩
  · exact ⟨.error .isDirectory, fun _ => rfl⟩
  · simp only [ok_bind]
    by_cases ha : p.asDirectory = true
    · simp only [if_pos ha]
      exact ⟨.error .isDirectory, fun _ => rfl⟩
    · simp only [if_neg ha]
      rcases hn : fs.enter dir name with fault | target
      · exact ⟨.error fault, fun _ => rfl⟩
      · obtain ⟨rfl, -⟩ := locate_of_locateParent hl hn
        simp only [ok_bind]
        by_cases hd : fs.node? p.place = some .directory
        · simp only [if_pos hd]
          exact ⟨.error .isDirectory, fun _ => rfl⟩
        · simp only [if_neg hd]
          exact ⟨.ok (), fun _ => rfl⟩

theorem run_unlessThere (p : FilePath) (fault : FileFault) (fs : FileSystem) :
    (unlessThere p fault).run fs = (if fs.isDirectory p then .ok () else .error fault, fs) := by
  rw [unlessThere, run]
  simp only [FileOperation.perform]
  by_cases hd : fs.isDirectory p = true
  · simp only [if_pos hd, run]
  · simp only [if_neg hd, run]

theorem run_attempt (p : FilePath) (otherwise : FileProgram (Except FileFault Unit))
    (fs : FileSystem) :
    (attempt p otherwise).run fs =
      match fs.makeDirectory p with
      | .ok fs' => (.ok (), fs')
      | .error .notFound => otherwise.run fs
      | .error fault => (if fs.isDirectory p then .ok () else .error fault, fs) := by
  rw [attempt, run]
  simp only [FileOperation.perform]
  rcases fs.makeDirectory p with fault | fs'
  · cases fault with
    | notFound => rfl
    | _ => exact run_unlessThere p _ fs
  · rfl

/-- **Directories are made one operation after the other** as they are at one go. -/
theorem run_making (absolute : Bool) (parts : List FilePath.Segment) (fs : FileSystem) :
    (making absolute parts).run fs = makeAll absolute parts fs := by
  induction parts generalizing fs with
  | nil => rfl
  | cons part up ih =>
    rw [making, makeAll, run_attempt, run_andThen, ih]
    rcases fs.makeDirectory ⟨absolute, (part :: up).reverse, []⟩ with fault | fs₁
    · cases fault with
      | notFound =>
        dsimp only
        rcases makeAll absolute up fs with ⟨_ | ⟨⟩, fs₂⟩
        · rfl
        · dsimp only
          rw [run_attempt, run_unlessThere]
          rcases fs₂.makeDirectory ⟨absolute, (part :: up).reverse, []⟩ with fault | fs₃
          · cases fault <;> rfl
          · rfl
      | _ => rfl
    · rfl

theorem run_filling (hread : fs.readFile p = .ok bytes) (more : List UInt8) :
    (filling p more).run fs =
      (.ok (), if more = [] then fs else fs.put p.place (.file (bytes ++ more))) := by
  induction more generalizing fs bytes with
  | nil => rfl
  | cons byte rest ih =>
    have happend : fs.appendFile p [byte] = .ok _ := appendFile_of_readFile hread
    have hnext := ih (readFile_appendFile happend hread)
    rw [filling, run_andThen, once, run]
    simp only [FileOperation.perform, happend, settle, run]
    rw [hnext, if_neg (List.cons_ne_nil _ _), List.append_assoc, put_put]
    by_cases hrest : rest = []
    · rw [if_pos hrest, hrest]
    · rw [if_neg hrest]
      rfl

/-- **A file that is filled byte by byte** is as if it was written at one go. -/
theorem run_rewriting (p : FilePath) (bytes : List UInt8) (fs : FileSystem) :
    (rewriting p bytes).run fs = fs.settle (fs.writeFile p bytes) := by
  obtain ⟨answer, hanswer⟩ := exists_writeFile_eq fs p
  rw [rewriting, run_andThen, once, run]
  simp only [FileOperation.perform, run]
  cases answer with
  | error fault =>
    rw [hanswer [], hanswer bytes]
    rfl
  | ok =>
    have hclear : fs.writeFile p [] = .ok (fs.put p.place (.file [])) := hanswer []
    rw [hclear, hanswer bytes]
    show (filling p bytes).run (fs.put p.place (.file [])) =
      (.ok (), fs.put p.place (.file bytes))
    rw [run_filling (readFile_writeFile hclear) bytes, put_put]
    by_cases hbytes : bytes = []
    · rw [if_pos hbytes, hbytes]
    · rw [if_neg hbytes, List.nil_append]

/-! ## Making and writing, turn by turn -/

variable {P I : FileSystem → Prop}

theorem always_done (hP : ∀ fs, I fs → P fs) (hI : I fs) (answer : Except FileFault Unit) :
    Always P (Ends I I) (done answer) fs := by
  refine ⟨hP fs hI, ?_⟩
  cases answer <;> exact hI

theorem always_unlessThere (hP : ∀ fs, I fs → P fs) (hI : I fs) (p : FilePath)
    (fault : FileFault) : Always P (Ends I I) (unlessThere p fault) fs := by
  refine ⟨hP fs hI, ?_, fun _ => always_done hP hI _⟩
  simp only [FileOperation.perform]
  split
  · exact always_done hP hI _
  · exact always_done hP hI _

theorem always_attempt {otherwise : FileProgram (Except FileFault Unit)} (hP : ∀ fs, I fs → P fs)
    (hI : I fs) (hmade : ∀ fs', fs.makeDirectory p = .ok fs' → I fs')
    (hotherwise : Always P (Ends I I) otherwise fs) :
    Always P (Ends I I) (attempt p otherwise) fs := by
  have hanswer : ∀ (answer : Except FileFault Unit) (fault : FileFault), answer = .error fault →
      Always P (Ends I I) (match answer with
        | .ok () => done (.ok ())
        | .error .notFound => otherwise
        | .error fault => unlessThere p fault) fs := by
    rintro _ fault rfl
    cases fault with
    | notFound => exact hotherwise
    | _ => exact always_unlessThere hP hI p _
  refine ⟨hP fs hI, ?_, fun fault => hanswer _ fault rfl⟩
  simp only [FileOperation.perform]
  rcases hm : fs.makeDirectory p with fault | fs'
  · exact hanswer _ fault rfl
  · exact always_done hP (hmade fs' hm) _

/-- **While directories are made**, there is at every turn what each of them leaves as it is. -/
theorem always_making {absolute : Bool} {parts : List FilePath.Segment} (hP : ∀ fs, I fs → P fs)
    (hmade : ∀ up, up <:+ parts → up ≠ [] → ∀ fs fs', I fs →
      fs.makeDirectory ⟨absolute, up.reverse, []⟩ = .ok fs' → I fs') (hI : I fs) :
    Always P (Ends I I) (making absolute parts) fs := by
  induction parts generalizing fs with
  | nil => exact always_done hP hI _
  | cons part up ih =>
    have hself := hmade (part :: up) List.suffix_rfl (List.cons_ne_nil _ _)
    have habove := ih (fun up' hup' => hmade up' (hup'.trans (List.suffix_cons _ _))) hI
    refine always_attempt hP hI (fun fs' => hself fs fs' hI) (habove.andThen hP ?_)
    intro fs' hI'
    exact always_attempt hP hI' (fun fs'' => hself fs' fs'' hI') (always_unlessThere hP hI' _ _)

/-- **While a file is filled**, there is at every turn what adding to it leaves as it is, and at the
end all is in it. -/
theorem always_filling (hP : ∀ fs, I fs → P fs)
    (hadd : ∀ fs fs' more, I fs → fs.appendFile p more = .ok fs' → I fs') (hI : I fs)
    (hread : fs.readFile p = .ok bytes) (more : List UInt8) :
    Always P (Ends (fun fs => I fs ∧ fs.readFile p = .ok (bytes ++ more)) I)
      (filling p more) fs := by
  induction more generalizing fs bytes with
  | nil =>
    refine ⟨hP fs hI, hI, ?_⟩
    rw [List.append_nil, hread]
  | cons byte rest ih =>
    have happend : fs.appendFile p [byte] = .ok _ := appendFile_of_readFile hread
    have honce : Always P (Ends (fun fs => I fs ∧ fs.readFile p = .ok (bytes ++ [byte])) I)
        (once (.append p byte)) fs := by
      refine always_once hP (fun fs h => hP fs h.1) hI ?_
      simp only [FileOperation.perform, happend, settle]
      exact ⟨hadd fs _ _ hI happend, readFile_appendFile happend hread⟩
    refine honce.andThen hP ?_
    rintro fs' ⟨hI', hread'⟩
    have hrest := ih hI' hread'
    rw [List.append_assoc] at hrest
    exact hrest

/-- **While a file is written**, there is at every turn what clearing it and adding to it leave as
it is, and at the end it is known to have all the bytes. -/
theorem always_rewriting (hP : ∀ fs, I fs → P fs)
    (hclear : ∀ fs fs', I fs → fs.writeFile p [] = .ok fs' → I fs')
    (hadd : ∀ fs fs' more, I fs → fs.appendFile p more = .ok fs' → I fs') (hI : I fs)
    (bytes : List UInt8) :
    Always P (Ends (fun fs => I fs ∧ fs.readFile p = .ok bytes) I) (rewriting p bytes) fs := by
  have hcleared : Always P (Ends (fun fs => I fs ∧ fs.readFile p = .ok []) I)
      (once (.clear p)) fs := by
    refine always_once hP (fun fs h => hP fs h.1) hI ?_
    simp only [FileOperation.perform]
    rcases hwrite : fs.writeFile p [] with fault | fs'
    · exact hI
    · exact ⟨hclear fs fs' hI hwrite, readFile_writeFile hwrite⟩
  refine hcleared.andThen hP fun fs' h => ?_
  exact always_filling hP hadd h.1 h.2 bytes

end FileSystem

end VisualRegression
