import CheckRouter.Field

/-!
# Listings of faults

A listing counts the faults of a record and tells for each one its field, what is wrong, what was
given and where more is said about complaints of its kind.
-/

namespace CheckRouter

namespace Fault

/-- The page that explains complaints of a kind. Its address is part of the text of a listing. -/
def page (kind : String) : String :=
  "/".intercalate ["https:", "", "errors.pydantic.dev", "2.14", "v", kind]

/-- The name of a field, quoted if it could be taken for a way through several. -/
def place (name : String) : String :=
  if name.toList.contains '.' then "`" ++ name ++ "`" else name

def lines (fault : Fault) : List String :=
  [place fault.field,
    "  " ++ fault.complaint.message ++ " [type=" ++ fault.complaint.kind ++ ", input_value=" ++
      fault.given.text ++ ", input_type=" ++ fault.given.kind ++ "]",
    "    For further information visit " ++ page fault.complaint.kind]

/-- The faults found in a record of some kind. -/
def listing (record : String) (faults : List Fault) : String :=
  let count := toString faults.length ++ " validation error" ++
    (if faults.length = 1 then "" else "s") ++ " for " ++ record
  "\n".intercalate (count :: faults.flatMap lines)

end Fault

end CheckRouter
