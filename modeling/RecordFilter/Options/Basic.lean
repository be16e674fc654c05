import RecordFilter.Compiler
import RecordFilter.Json.Printer

/-! The options of a compiler and their JSON form. -/

namespace RecordFilter

structure Options where
  maxDepth : Nat

namespace Options

def standard : Options :=
  ⟨defaultMaxDepth⟩

/-- The name of the depth limit in documents. -/
def maxDepthName : String := "max_depth"

def toJson (options : Options) : Json :=
  .object [(maxDepthName, .number (toString options.maxDepth))]

/-- The compiler with the usual strategies and these options. -/
def compiler (options : Options) : Compiler :=
  Compiler.standard.withMaxDepth options.maxDepth

end Options

end RecordFilter
