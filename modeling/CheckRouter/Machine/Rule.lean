import CheckRouter.Machine

/-!
# Programs given by rules

What the programs of a machine do can be told by a list of rules. The first rule that fits a launch
decides; a program that no rule fits ends at once, without output and with status zero.
-/

namespace CheckRouter

/-- A rule for the launches that agree with all the conditions it states. -/
structure Rule where
  program : Option String := none
  argument : Option String := none
  directory : Option String := none
  response : Except SystemError Behaviour

namespace Rule

/-- Whether a launch agrees with the conditions of a rule. -/
def fits (rule : Rule) (launch : Launch) : Bool :=
  rule.program.all (launch.arguments.head? == some ·) &&
    rule.argument.all (launch.arguments.tail.contains ·) &&
    rule.directory.all (launch.directory == some ·)

def respond (rules : List Rule) (launch : Launch) : Except SystemError Behaviour :=
  match rules.find? (·.fits launch) with
  | some rule => rule.response
  | none => .ok {}

end Rule

end CheckRouter
