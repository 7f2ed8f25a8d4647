/-
# The version of the library

The version is shown when a page is ready and when the command line is asked for it.
-/
namespace PageCompanion

def version : String := "0.1.0"

end PageCompanion
