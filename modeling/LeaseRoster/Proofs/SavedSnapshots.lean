import LeaseRoster.Proofs.IndexKeys
import LeaseRoster.Roster.Export

/-!
# Saved snapshots

A snapshot is prepared beside its target and put in its place in one step.  The operating
system may refuse any step, and it may do so when a part of the text is already in the file that
is being prepared.  Whatever it does, the target has either what it had before or the whole text
of the snapshot, and it has the new text exactly if no step failed.
-/

namespace LeaseRoster

namespace FileTree

theorem length_parent_lt {path : List Char} (named : path ≠ []) :
    (parent path).length < path.length := by
  have inside : path.reverse.dropWhile (fun character => character != '/') <:+ path.reverse :=
    List.dropWhile_suffix _
  have dropped := inside.length_le
  have positive : 0 < path.length := List.length_pos_iff.mpr named
  simp only [parent, List.length_reverse, List.length_drop] at dropped ⊢
  omega

theorem length_lt_of_mem_ancestors {depth : Nat} {path directory : List Char}
    (above : directory ∈ ancestors depth path) : directory.length < path.length := by
  induction depth generalizing path with
  | zero => cases above
  | succ depth ih =>
    rw [ancestors] at above
    by_cases named : path = []
    · subst named
      simp [parent] at above
    · have shorter := length_parent_lt named
      split at above
      · cases above
      · rcases List.mem_append.mp above with further | next
        · exact Nat.lt_trans (ih further) shorter
        · rw [List.mem_singleton.mp next]
          exact shorter

theorem find?_makeDirectory {tree next : FileTree} {directory path : String}
    (made : tree.makeDirectory directory = .ok next) (other : directory ≠ path) :
    next.find? path = tree.find? path := by
  unfold makeDirectory at made
  split at made
  · obtain rfl := Except.ok.inj made
    rw [Index.find?_insert, if_neg other]
  · rw [Except.ok.inj made]
  · cases made

/-- No directory above a path stands at the path itself. -/
theorem ne_of_mem_directoriesAbove {path directory : String}
    (above : directory ∈ directoriesAbove path) : directory ≠ path := by
  obtain ⟨characters, member, rfl⟩ := List.mem_map.mp above
  rintro rfl
  have shorter := length_lt_of_mem_ancestors member
  simp at shorter

theorem read?_congr {tree next : FileTree} {path : String}
    (same : next.find? path = tree.find? path) : next.read? path = tree.read? path := by
  rw [read?, read?, same]

end FileTree

namespace Export

theorem temporaryPath_ne (path : String) : temporaryPath path ≠ path := by
  intro same
  have lengths := congrArg String.length same
  rw [temporaryPath, String.length_append] at lengths
  have longer : ".tmp".length = 4 := rfl
  omega

/-- The steps of saving in front of the one that puts the file in the place of the target. -/
def prepareSteps (path : String) (text : Except Fault (List Char)) : List (SaveStep String) :=
  (SavePath.above path).map .makeDirectory ++ [.start, .write text]

theorem saveSteps_eq (path : String) (text : Except Fault (List Char)) :
    saveSteps path text = prepareSteps path text ++ [.replace] := by
  simp [saveSteps, prepareSteps]

/-- A refusal of the operating system: it comes behind some steps, when a part of the text may
have been added to the file that is being prepared. -/
structure Breakdown where
  behind : Nat
  part : List Char
  fault : Fault
  isSystem : fault.isSystem = true

/-- The files when the operating system refuses to go on. -/
def brokenTree (path : String) (tree : FileTree) (part : List Char) : FileTree :=
  match tree.append (temporaryPath path) part with
  | .ok next => next
  | .error _ => tree

/-- Saves a text to a path, or a part of it until the operating system refuses to go on.  A step
may also fail by itself before that. -/
def saveText (path : String) (text : Except Fault (List Char)) (tree : FileTree) :
    Option Breakdown → Saved FileTree
  | none => performAll path tree (saveSteps path text)
  | some breakdown =>
    match performAll path tree ((prepareSteps path text).take breakdown.behind) with
    | ⟨reached, none⟩ => ⟨brokenTree path reached breakdown.part, some breakdown.fault⟩
    | ⟨reached, some fault⟩ => ⟨reached, some fault⟩

/-- Without a refusal a snapshot is saved as it is made. -/
theorem saveText_none (path : String) (poolSize : Option Nat) (snapshot : Snapshot)
    (tree : FileTree) :
    saveText path (snapshotText snapshot poolSize) tree none =
      save path poolSize snapshot tree := rfl

section Steps

variable {path : String} {tree next : FileTree}

theorem find?_startFile_other {target other : String} (apart : target ≠ other)
    (started : tree.startFile target = .ok next) : next.find? other = tree.find? other := by
  unfold FileTree.startFile at started
  split at started
  · cases started
  · obtain rfl := Except.ok.inj started
    rw [Index.find?_insert, if_neg apart]

theorem find?_append_other {target other : String} {part : List Char} (apart : target ≠ other)
    (added : tree.append target part = .ok next) : next.find? other = tree.find? other := by
  unfold FileTree.append at added
  split at added
  · obtain rfl := Except.ok.inj added
    rw [Index.find?_insert, if_neg apart]
  · cases added
  · cases added

theorem find?_brokenTree (path : String) (tree : FileTree) (part : List Char) :
    (brokenTree path tree part).find? path = tree.find? path := by
  unfold brokenTree
  split
  · rename_i next added
    exact find?_append_other (temporaryPath_ne path) added
  · rfl

/-- Whether a step leaves the target of a saving alone: it makes a directory above it, or works on
the file that is being prepared. -/
def Spares (path : String) (step : SaveStep String) : Prop :=
  step ≠ .replace ∧ ∀ directory, step = .makeDirectory directory →
    directory ∈ FileTree.directoriesAbove path

/-- Only the last step touches the target. -/
theorem find?_perform {step : SaveStep String} (performed : perform path tree step = .ok next)
    (spares : Spares path step) : next.find? path = tree.find? path := by
  cases step with
  | makeDirectory directory =>
    have above := spares.2 directory rfl
    exact FileTree.find?_makeDirectory performed (FileTree.ne_of_mem_directoriesAbove above)
  | start => exact find?_startFile_other (temporaryPath_ne path) performed
  | write text =>
    rw [perform] at performed
    cases text with
    | error fault => cases performed
    | ok characters => exact find?_append_other (temporaryPath_ne path) performed
  | replace => exact absurd rfl spares.1

theorem find?_performAll (path : String) (tree : FileTree) {steps : List (SaveStep String)}
    (spare : ∀ step ∈ steps, Spares path step) :
    (performAll path tree steps).tree.find? path = tree.find? path := by
  induction steps generalizing tree with
  | nil => rfl
  | cons step rest ih =>
    rw [performAll]
    cases performed : perform path tree step with
    | error fault => rfl
    | ok next =>
      have first := find?_perform performed (spare step List.mem_cons_self)
      exact (ih next fun other member => spare other (List.mem_cons_of_mem _ member)).trans first

theorem spares_of_mem_prepareSteps {text : Except Fault (List Char)} {step : SaveStep String}
    (member : step ∈ prepareSteps path text) : Spares path step := by
  rcases List.mem_append.mp member with making | preparing
  · obtain ⟨directory, above, rfl⟩ := List.mem_map.mp making
    refine ⟨nofun, fun other same => ?_⟩
    cases same
    exact above
  · refine ⟨?_, fun directory same => ?_⟩
    · rintro rfl
      simp at preparing
    · subst same
      simp at preparing

theorem performAll_append (first second : List (SaveStep String)) :
    performAll path tree (first ++ second) =
      match (performAll path tree first).fault with
      | some _ => performAll path tree first
      | none => performAll path (performAll path tree first).tree second := by
  induction first generalizing tree with
  | nil => rfl
  | cons step rest ih =>
    rw [List.cons_append, performAll, performAll]
    cases perform path tree step with
    | error fault => rfl
    | ok next => exact ih

theorem performAll_concat_inv {steps : List (SaveStep String)} {step : SaveStep String}
    (done : performAll path tree (steps ++ [step]) = ⟨next, none⟩) :
    ∃ reached, performAll path tree steps = ⟨reached, none⟩ ∧
      perform path reached step = .ok next := by
  rw [performAll_append] at done
  rcases before : performAll path tree steps with ⟨reached, _ | fault⟩
  · rw [before] at done
    simp only [performAll] at done
    cases performed : perform path reached step with
    | error fault => simp [performed] at done
    | ok last =>
      simp only [performed, Saved.mk.injEq, and_true] at done
      exact ⟨reached, rfl, done ▸ performed⟩
  · rw [before] at done
    simp at done

theorem find?_startFile {target : String} (started : tree.startFile target = .ok next) :
    next.find? target = some (.file []) := by
  unfold FileTree.startFile at started
  split at started
  · cases started
  · obtain rfl := Except.ok.inj started
    rw [Index.find?_insert, if_pos rfl]

theorem find?_append {target : String} {content part : List Char}
    (present : tree.find? target = some (.file content))
    (added : tree.append target part = .ok next) :
    next.find? target = some (.file (content ++ part)) := by
  rw [FileTree.append, present] at added
  obtain rfl := Except.ok.inj added
  rw [Index.find?_insert, if_pos rfl]

/-- The file that is prepared has the whole text. -/
theorem find?_prepared {text : Except Fault (List Char)}
    (prepared : performAll path tree (prepareSteps path text) = ⟨next, none⟩) :
    ∃ characters, text = .ok characters ∧
      next.find? (temporaryPath path) = some (.file characters) := by
  have split : prepareSteps path text =
      (SavePath.above path).map .makeDirectory ++ [.start] ++ [.write text] := by
    simp [prepareSteps]
  rw [split] at prepared
  obtain ⟨empty, begun, written⟩ := performAll_concat_inv prepared
  obtain ⟨withParents, -, started⟩ := performAll_concat_inv begun
  cases text with
  | error fault => cases written
  | ok characters => exact ⟨characters, rfl, find?_append (find?_startFile started) written⟩

/-- The prepared file takes the place of the target as a whole, unless that is a directory. -/
theorem replace_eq_ok {source target : String} {characters : List Char}
    (present : tree.find? source = some (.file characters))
    (replaced : tree.replace source target = .ok next) :
    next = (tree.insert target (.file characters)).erase source := by
  unfold FileTree.replace at replaced
  rw [present] at replaced
  split at replaced
  · rename_i node isFile isDirectory
    obtain rfl := Option.some.inj isFile
    cases replaced
  · rename_i node target isFile other
    obtain rfl := Option.some.inj isFile
    exact (Except.ok.inj replaced).symm
  · cases replaced

theorem read?_replace {characters : List Char}
    (present : tree.find? (temporaryPath path) = some (.file characters))
    (replaced : tree.replace (temporaryPath path) path = .ok next) :
    next.read? path = some characters := by
  rw [replace_eq_ok present replaced, FileTree.read?, Index.find?_erase,
    if_neg (temporaryPath_ne path), Index.find?_insert, if_pos rfl]

end Steps

/-- How a saving ends: the target has the whole text, or a step failed and it has what it had. -/
inductive Settles (path : String) (text : Except Fault (List Char)) (tree : FileTree) :
    Saved FileTree → Prop
  | written {next : FileTree} (characters : List Char) (made : text = .ok characters)
      (present : next.read? path = some characters) : Settles path text tree ⟨next, none⟩
  | failed {next : FileTree} (fault : Fault) (kept : next.read? path = tree.read? path) :
      Settles path text tree ⟨next, some fault⟩

theorem settles_saveText (path : String) (text : Except Fault (List Char)) (tree : FileTree)
    (breakdown : Option Breakdown) :
    Settles path text tree (saveText path text tree breakdown) := by
  cases breakdown with
  | some breakdown =>
    have spare : ∀ step ∈ (prepareSteps path text).take breakdown.behind, Spares path step :=
      fun step member => spares_of_mem_prepareSteps (List.mem_of_mem_take member)
    have untouched := find?_performAll path tree spare
    unfold saveText
    dsimp only
    generalize performAll path tree _ = done at untouched ⊢
    obtain ⟨reached, fault⟩ := done
    cases fault with
    | some fault => exact .failed fault (FileTree.read?_congr untouched)
    | none =>
      have broken := find?_brokenTree path reached breakdown.part
      exact .failed breakdown.fault (FileTree.read?_congr (broken.trans untouched))
  | none =>
    have spare : ∀ step ∈ prepareSteps path text, Spares path step :=
      fun step => spares_of_mem_prepareSteps
    have untouched := find?_performAll path tree spare
    rw [saveText, saveSteps_eq, performAll_append]
    generalize prepared : performAll path tree (prepareSteps path text) = done at untouched ⊢
    obtain ⟨reached, fault⟩ := done
    cases fault with
    | some fault => exact .failed fault (FileTree.read?_congr untouched)
    | none =>
      obtain ⟨characters, made, present⟩ := find?_prepared prepared
      simp only [performAll]
      cases replaced : perform path reached .replace with
      | error fault => exact .failed fault (FileTree.read?_congr untouched)
      | ok next => exact .written characters made (read?_replace present replaced)

end Export

end LeaseRoster
