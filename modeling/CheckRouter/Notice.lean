import CheckRouter.Text.Blank

/-!
# Notices

A notice tells the user what keeps a checker from running and what can be done about it. Advice on
the setup is given once; the end of a checker is told every time.
-/

namespace CheckRouter

inductive Notice
  | noInterpreter
  | installChecker
  | abnormalExit (detail : String)
  deriving DecidableEq, Repr

namespace Notice

/-- Whether a notice is given only once. -/
def isAdvice : Notice → Bool
  | .noInterpreter => true
  | .installChecker => true
  | .abnormalExit _ => false

/-- Whether a notice is shown after some others. -/
def isNew (earlier : List Notice) (notice : Notice) : Bool :=
  !notice.isAdvice || !earlier.contains notice

def text (symbols : Bool) (notice : Notice) : String :=
  let symbol (s : String) := if symbols then s else ""
  match notice with
  | .noInterpreter =>
    symbol "⚠️ " ++
      "No Python interpreter configured; set interpreter_path or provide a mypy executable."
  | .installChecker =>
    symbol "⚠️ " ++ "mypy is not installed for the configured interpreter; " ++
      "install it with 'pip install mypy'."
  | .abnormalExit detail =>
    let detail := Text.strip detail
    symbol "❌ " ++ "mypy exited abnormally" ++ if detail = "" then "" else "\n" ++ detail

end Notice

end CheckRouter
