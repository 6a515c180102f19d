/-!
# Listings

Texts of several parts inside brackets.
-/
namespace QueryScope.Text

def listing (parts : List String) : String := "[" ++ ", ".intercalate parts ++ "]"

/-- Parts in round brackets, with a word between them. -/
def grouped (separator : String) (parts : List String) : String :=
  "(" ++ separator.intercalate parts ++ ")"

end QueryScope.Text
