/-!
# Built-in names

The names that an expression of layer source can mention without a definition.  Only a few of them
can be called here; the others are defined as mere names.

* `isFunction` and `isClass` tell the two kinds apart, `isBuiltin` is either.
-/

namespace Laminar.Builtin

/-- The built-in functions. -/
def functions : List String :=
  ["__build_class__", "__import__", "abs", "aiter", "all", "anext", "any", "ascii", "bin",
    "breakpoint", "callable", "chr", "compile", "delattr", "dir", "divmod", "eval", "exec",
    "format", "getattr", "globals",
    "hasattr", "hash", "hex", "id", "input", "isinstance", "issubclass", "iter", "len", "locals",
    "max", "min", "next", "oct", "open", "ord", "pow", "print", "repr", "round", "setattr",
    "sorted", "sum", "vars"]

/-- The built-in classes of values. -/
def valueClasses : List String :=
  ["bool", "bytearray", "bytes", "classmethod", "complex", "dict", "enumerate", "filter", "float",
    "frozenset", "int", "list", "map", "memoryview", "object", "property", "range", "reversed",
    "set", "slice", "staticmethod", "str", "super", "tuple", "type", "zip"]

/-- The built-in classes of errors. -/
def errorClasses : List String :=
  ["ArithmeticError", "AssertionError", "AttributeError", "BaseException", "BaseExceptionGroup",
    "BlockingIOError", "BrokenPipeError", "BufferError", "BytesWarning", "ChildProcessError",
    "ConnectionAbortedError", "ConnectionError", "ConnectionRefusedError", "ConnectionResetError",
    "DeprecationWarning", "EOFError", "EncodingWarning", "Exception",
    "ExceptionGroup", "FileExistsError", "FileNotFoundError", "FloatingPointError",
    "FutureWarning", "GeneratorExit", "ImportError", "ImportWarning",
    "IndentationError", "IndexError", "InterruptedError", "IsADirectoryError", "KeyError",
    "KeyboardInterrupt", "LookupError", "MemoryError", "ModuleNotFoundError", "NameError",
    "NotADirectoryError", "NotImplementedError", "OSError", "OverflowError",
    "PendingDeprecationWarning", "PermissionError", "ProcessLookupError", "RecursionError",
    "ReferenceError", "ResourceWarning", "RuntimeError", "RuntimeWarning", "StopAsyncIteration",
    "StopIteration", "SyntaxError", "SyntaxWarning", "SystemError", "SystemExit", "TabError",
    "TimeoutError", "TypeError", "UnboundLocalError", "UnicodeDecodeError", "UnicodeEncodeError",
    "UnicodeError", "UnicodeTranslateError", "UnicodeWarning", "UserWarning", "ValueError",
    "Warning", "ZeroDivisionError"]

/-- The built-in objects that are neither function nor class. -/
def objects : List String :=
  ["NotImplemented", "copyright", "credits", "exit", "help", "license", "quit"]

/-- Names that are another name for a class. -/
def aliases : List (String × String) := [("EnvironmentError", "OSError"), ("IOError", "OSError")]

/-- The name under which a built-in name is known. -/
def canonical (name : String) : String := (aliases.lookup name).getD name

/-- Is it the name of a function? -/
def isFunction (name : String) : Bool := functions.contains name

/-- Is it the name of a class? -/
def isClass (name : String) : Bool := valueClasses.contains name || errorClasses.contains name

/-- Is it defined without a definition? -/
def isBuiltin (name : String) : Bool :=
  isFunction name || isClass name || objects.contains name

end Laminar.Builtin
