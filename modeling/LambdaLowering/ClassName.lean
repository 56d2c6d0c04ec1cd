/-! Names of classes: internal names separate packages by slashes, binary names by dots. -/

set_option autoImplicit false

namespace LambdaLowering.ClassName

/-- The part before the last slash; a name without a slash is in the unnamed package. -/
def package (name : String) : String :=
  String.ofList ((name.toList.reverse.dropWhile (· != '/')).drop 1).reverse

def binary (name : String) : String :=
  String.ofList (name.toList.map fun c => if c == '/' then '.' else c)

end LambdaLowering.ClassName
