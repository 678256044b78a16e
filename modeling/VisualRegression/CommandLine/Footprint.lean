import VisualRegression.CommandLine.Outcome

/-!
# Files that a command line touches

The paths that a run reads or writes. Which files a run touches is known only when its policy is, so
the policy files come first.
-/

namespace VisualRegression.CommandLine

/-- The files in which the policy may be. -/
def policyPaths (configHome : Option String) (i : Invocation) : List FilePath :=
  match i.config with
  | some path => [FilePath.ofText path]
  | none =>
    (PolicyFile.localPath :: (configHome.map PolicyFile.userPath).toList).map FilePath.ofText

/-- The files that a run reads or writes under a policy. -/
def runPaths (policy : Policy) (r : RunRequest) : List FilePath :=
  let named := r.images ++ r.diffOut.toList ++ r.reportOut.toList
  let dir : BaselineDirectory := ⟨(r.policy policy).baselineDir⟩
  named.map FilePath.ofText ++
    match BaselineKey.parse r.baseline with
    | .ok key => [dir.filePath key, dir.temporaryPath key]
    | .error _ => []

end VisualRegression.CommandLine
