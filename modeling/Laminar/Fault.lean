import Laminar.Value.Text
import Laminar.Value.Writable

/-!
# Faults

What can go wrong while values are computed, converted or passed to a function.  A fault is a cause;
its kind and its message are functions of the cause, so no other module words a message of its own.

* `FaultKind` is the class of a fault, `FaultKind.label` its name.
* `Fault` lists the causes, `Fault.kind` and `Fault.message` classify and word them.
-/

namespace Laminar

/-- The classes of faults. -/
inductive FaultKind where
  | typeMismatch | badValue | undefinedName | unboundLocal | zeroDivision | missingKey
  | indexRange | missingAttribute | notImplemented | overflow | system | importFailed
  | fileMissing | fileIsDirectory | notDirectory | fileExists | badArgument | memory
  /-- A class that only a registered constructor raises. -/
  | other (label : String)
  deriving DecidableEq, Repr

/-- The name of a class of faults. -/
def FaultKind.label : FaultKind → String
  | .typeMismatch => "TypeError"
  | .badValue => "ValueError"
  | .undefinedName => "NameError"
  | .unboundLocal => "UnboundLocalError"
  | .zeroDivision => "ZeroDivisionError"
  | .missingKey => "KeyError"
  | .indexRange => "IndexError"
  | .missingAttribute => "AttributeError"
  | .notImplemented => "NotImplementedError"
  | .overflow => "OverflowError"
  | .system => "OSError"
  | .importFailed => "ImportError"
  | .fileMissing => "FileNotFoundError"
  | .fileIsDirectory => "IsADirectoryError"
  | .notDirectory => "NotADirectoryError"
  | .fileExists => "FileExistsError"
  | .badArgument => "ArgumentTypeError"
  | .memory => "MemoryError"
  | .other label => label

/-- The classes of faults with a fixed name. -/
def FaultKind.known : List FaultKind :=
  [.typeMismatch, .badValue, .undefinedName, .unboundLocal, .zeroDivision, .missingKey, .indexRange,
    .missingAttribute, .notImplemented, .overflow, .system, .importFailed, .fileMissing,
    .fileIsDirectory, .notDirectory, .fileExists, .badArgument, .memory]

/-- The class of faults with a name. -/
def FaultKind.ofLabel (label : String) : FaultKind :=
  let name := Builtin.canonical label
  (known.find? (·.label == name)).getD (.other name)

/-- The divisions that fail on zero. -/
inductive ZeroDivision where
  | quotient | wholeFloor | wholeRemainder | floatQuotient | floatFloor | floatRemainder | power
  | complexQuotient | complexPower
  deriving DecidableEq, Repr

/-- The wording of a division by zero. -/
def ZeroDivision.message : ZeroDivision → String
  | .quotient => "division by zero"
  | .wholeFloor => "integer division or modulo by zero"
  | .wholeRemainder => "integer modulo by zero"
  | .floatQuotient => "float division by zero"
  | .floatFloor => "float floor division by zero"
  | .floatRemainder => "float modulo"
  | .power => "0.0 cannot be raised to a negative power"
  | .complexQuotient => "complex division by zero"
  | .complexPower => "0.0 to a negative or complex power"

/-- The conversions whose result does not fit. -/
inductive Overflow where
  | toFloat | quotient | power | infiniteToInt | toIndex | toLength | toFixed | complexPower
  | complexLength | toCharacter | toByte | toSign | toInt
  deriving DecidableEq, Repr

/-- The wording of an overflow. -/
def Overflow.message : Overflow → String
  | .toFloat => "int too large to convert to float"
  | .quotient => "integer division result too large for a float"
  | .power => "(34, 'Numerical result out of range')"
  | .infiniteToInt => "cannot convert float infinity to integer"
  | .toIndex => "cannot fit 'int' into an index-sized integer"
  | .toLength => "Python int too large to convert to C ssize_t"
  | .toFixed => "Python int too large to convert to C long"
  | .complexPower => "complex exponentiation"
  | .complexLength => "absolute value too large"
  | .toCharacter => "%c arg not in range(0x110000)"
  | .toByte => "%c arg not in range(256)"
  | .toSign => "character argument not in range(0x110000)"
  | .toInt => "Python int too large to convert to C int"

/-- A cause of failure.  Types of operands are given by name. -/
inductive Fault where
  -- Keys and calls
  | unhashable (type : String)
  | keywordsNotText
  | unexpectedKeyword (function keyword : String)
  | repeatedArgument (function name : String)
  | tooManyArguments (function : String) (least most given : Nat)
  | missingArguments (function : String) (names : List String)
  | takesNoArguments (function : String)
  | exactArity (function : String) (given : Nat)
  | countedArity (function : String) (most given : Nat)
  | countedKeywords (function : String) (most given : Nat)
  | givenByNameAndPosition (function name : String) (position : Nat)
  | defaultWithSeveral (function : String)
  | leastArity (function : String) (given : Nat)
  | mostArity (function : String) (most given : Nat)
  | noKeywords (function : String)
  | invalidKeyword (function keyword : String)
  | spreadNotIterable (function : Option String) (type : String)
  | forwardNotMapping (function type : String)
  | forwardedTwice (function keyword : String)
  | notMapping (type : String)
  -- Binding the formals of a layer
  | tooManyPositional
  | boundTwice (name : String)
  | positionalOnly (name : String)
  | missingArgument (name : String)
  | unexpectedArgument (name : String)
  | needsOutput (layer : String)
  | needsCompileOutput (layer : String)
  -- Operators
  | operands (sign left right : String)
  | concatenation (left right : String)
  | joinBytes (type : String)
  | repetition (type : String)
  | unaryOperand (sign type : String)
  | notOrdered (sign left right : String)
  | notSubscriptable (type : String)
  | classNotSubscriptable (name : String)
  | indexType (sequence type : String)
  | textIndexType (type : String)
  | sliceBound
  | notCallable (type : String)
  | noLength (type : String)
  | unsized
  | iterationWithoutAxes
  | notIterable (type : String)
  | notContainer (type : String)
  | textMembership (type : String)
  | notBytes (type : String)
  | byteRange
  | floatArgument (type : String)
  | intArgument (type : String)
  | absArgument (type : String)
  | notWhole (type : String)
  | notShape (value : Value)
  | dimensionNotWhole
  | noFormat (type : String)
  | joinItem (index : Nat) (type : String)
  -- Numbers of fixed width
  | fixedDifference
  | fixedOpposite
  | noLoop (function : String) (types : List String)
  | noSafeLoop (function : String)
  | fixedPower
  | scalarIndex
  -- Arrays
  | truthOfMany
  | truthOfNone
  | notSingle
  | notScalarIndex
  | arrayIndex
  | arrayRange (index : Int) (axis size : Nat)
  | tooManyIndices (axes given : Nat)
  | shapesApart (left right : List Nat)
  -- Formats
  | unformatted (kind : String)
  | formatIncomplete
  | formatKeyIncomplete
  | formatArguments
  | formatMapping
  | formatStar
  | formatWidth
  | formatPrecision (word : String)
  | formatSign (shown : String) (code index : Nat)
  | formatReal (sign : Char) (type : String)
  | formatWhole (sign : Char) (type : String)
  | formatFloat (type : String)
  | formatFloatBytes (type : String)
  | formatCharacter
  | formatByte
  | formatBytes (type : String)
  -- Values
  | digitLimit
  | digitsGiven (count : Nat)
  | negativeShift
  | intText (base : Nat) (text : Value)
  | intBase
  | intTextMissing
  | intBaseWithoutText
  | decodedText
  | decodedValue (type : String)
  | argumentType (function name expected type : String)
  | floatText (text : Value)
  | fixedFloatText (text : String)
  | nanToInt
  | emptyArgument (function : String)
  | zeroStep (function : String)
  | dropRate (rate : Value)
  | ragged (shape : List Nat)
  | broadcast (source target : List Nat)
  | negativeDimension
  | nestedTooDeep
  | tooManyDimensions (count : Nat)
  | dimensionTooLarge
  | arrayTooBig
  | updateItem (index length : Nat)
  | repeatedInput (symbol : Value)
  | nothingToUnpack
  /-- A formal named like a reserved word. -/
  | formalName (name : String)
  /-- A name that is the name of a constant. -/
  | constantName (name : String)
  -- Names, keys, indices, attributes
  | undefinedName (name : String)
  | unboundLocal (name : String)
  | missingKey (key : Value)
  | indexRange (sequence : String)
  | noAttribute (type name : String)
  | noClassAttribute (cls name : String)
  | dividedByZero (division : ZeroDivision)
  | overflow (result : Overflow)
  /-- An index that no sequence can have. -/
  | indexTooLarge
  | outOfMemory
  | notImplemented
  -- Sources and files
  | sourceUnavailable
  | notLoadable (path : String)
  | fileMissing (path : String)
  | fileIsDirectory (path : String)
  | notDirectory (path : String)
  | fileExists (path : String)
  | nameTooLong (path : String)
  | nullInPath
  | notPath (type : String)
  | noAssignmentSign (text : String)
  /-- A fault that a registered constructor raises by itself. -/
  | raised (kind : FaultKind) (text : String)

/-- The class of a fault. -/
def Fault.kind : Fault → FaultKind
  | .intText .. | .intBase | .floatText _ | .nanToInt | .emptyArgument _ | .zeroStep _ | .dropRate _
  | .ragged _ | .broadcast .. | .negativeDimension | .repeatedInput _ | .nothingToUnpack
  | .fixedPower | .formatIncomplete | .formatKeyIncomplete | .formatWidth | .formatPrecision _
  | .formatSign .. | .digitLimit | .digitsGiven _ | .negativeShift | .fixedFloatText _
  | .nestedTooDeep | .tooManyDimensions _ | .dimensionTooLarge | .arrayTooBig | .updateItem ..
  | .formalName _ | .constantName _ | .nullInPath | .byteRange | .truthOfMany | .truthOfNone
  | .shapesApart .. =>
    .badValue
  | .undefinedName _ => .undefinedName
  | .unboundLocal _ => .unboundLocal
  | .missingKey _ => .missingKey
  | .indexRange _ | .indexTooLarge | .scalarIndex | .arrayIndex | .arrayRange ..
  | .tooManyIndices .. =>
    .indexRange
  | .noLoop .. => .other "UFuncTypeError"
  | .outOfMemory => .memory
  | .noAttribute .. | .noClassAttribute .. => .missingAttribute
  | .dividedByZero _ => .zeroDivision
  | .overflow _ => .overflow
  | .notImplemented => .notImplemented
  | .sourceUnavailable | .nameTooLong _ => .system
  | .notLoadable _ => .importFailed
  | .fileMissing _ => .fileMissing
  | .fileIsDirectory _ => .fileIsDirectory
  | .notDirectory _ => .notDirectory
  | .fileExists _ => .fileExists
  | .noAssignmentSign _ => .badArgument
  | .raised kind _ => kind
  | _ => .typeMismatch

/-- Names in quotes, as a sentence lists them. -/
def quotedNames (names : List String) : String :=
  let quoted := names.map fun n => "'" ++ n ++ "'"
  match quoted with
  | [] => ""
  | [a] => a
  | [a, b] => a ++ " and " ++ b
  | many => commaJoin many.dropLast ++ ", and " ++ (many.getLast?).getD ""

/-- An ending for more than one. -/
def plural (count : Nat) : String := if count = 1 then "" else "s"

/-- A shape without blanks. -/
def compactShape (shape : List Nat) : String :=
  match shape with
  | [n] => "(" ++ toString n ++ ",)"
  | shape => "(" ++ ",".intercalate (shape.map toString) ++ ")"

/-- A text cut off after a number of characters. -/
def shortened (length : Nat) (s : String) : String := String.ofList (s.toList.take length)

/-- The wording of a fault. -/
def Fault.message : Fault → String
  | .unhashable type => "unhashable type: '" ++ type ++ "'"
  | .keywordsNotText => "keywords must be strings"
  | .unexpectedKeyword function keyword =>
    function ++ "() got an unexpected keyword argument '" ++ keyword ++ "'"
  | .repeatedArgument function name =>
    function ++ "() got multiple values for argument '" ++ name ++ "'"
  | .tooManyArguments function least most given =>
    function ++ "() takes " ++
      (if least = most then toString most ++ " positional argument" ++ plural most
        else "from " ++ toString least ++ " to " ++ toString most ++ " positional arguments") ++
      " but " ++ toString given ++ (if given = 1 then " was given" else " were given")
  | .missingArguments function names =>
    function ++ "() missing " ++ toString names.length ++ " required positional argument" ++
      plural names.length ++ ": " ++ quotedNames names
  | .takesNoArguments function => function ++ "() takes no arguments"
  | .exactArity function given =>
    function ++ "() takes exactly one argument (" ++ toString given ++ " given)"
  | .countedArity function most given =>
    function ++ "() takes at most " ++ toString most ++ " arguments (" ++ toString given ++
      " given)"
  | .countedKeywords function most given =>
    function ++ "() takes at most " ++ toString most ++ " keyword arguments (" ++ toString given ++
      " given)"
  | .givenByNameAndPosition function name position =>
    "argument for " ++ function ++ "() given by name ('" ++ name ++ "') and position (" ++
      toString position ++ ")"
  | .defaultWithSeveral function =>
    "Cannot specify a default for " ++ function ++ "() with multiple positional arguments"
  | .leastArity function given =>
    function ++ " expected at least 1 argument, got " ++ toString given
  | .mostArity function most given =>
    function ++ " expected at most " ++ toString most ++ " argument" ++ plural most ++ ", got " ++
      toString given
  | .noKeywords function => function ++ "() takes no keyword arguments"
  | .invalidKeyword function keyword =>
    "'" ++ keyword ++ "' is an invalid keyword argument for " ++ function ++ "()"
  | .spreadNotIterable none type => "Value after * must be an iterable, not " ++ type
  | .spreadNotIterable (some function) type =>
    function ++ " argument after * must be an iterable, not " ++ type
  | .forwardNotMapping function type =>
    function ++ " argument after ** must be a mapping, not " ++ type
  | .forwardedTwice function keyword =>
    function ++ " got multiple values for keyword argument '" ++ keyword ++ "'"
  | .notMapping type => "'" ++ type ++ "' object is not a mapping"
  | .tooManyPositional => "too many positional arguments"
  | .boundTwice name => "multiple values for argument " ++ Text.quote name
  | .positionalOnly name =>
    Text.quote name ++ " parameter is positional only, but was passed as a keyword"
  | .missingArgument name => "missing a required argument: " ++ Text.quote name
  | .unexpectedArgument name => "got an unexpected keyword argument " ++ Text.quote name
  | .needsOutput layer => layer ++ "() needs an output symbol"
  | .needsCompileOutput layer => layer ++ ".compile() needs an output symbol"
  | .operands sign left right =>
    "unsupported operand type(s) for " ++ sign ++ ": '" ++ left ++ "' and '" ++ right ++ "'"
  | .concatenation left right =>
    "can only concatenate " ++ left ++ " (not \"" ++ right ++ "\") to " ++ left
  | .joinBytes type => "can't concat " ++ type ++ " to bytes"
  | .repetition type => "can't multiply sequence by non-int of type '" ++ type ++ "'"
  | .unaryOperand sign type => "bad operand type for unary " ++ sign ++ ": '" ++ type ++ "'"
  | .unformatted kind => "not all arguments converted during " ++ kind ++ " formatting"
  | .notOrdered sign left right =>
    "'" ++ sign ++ "' not supported between instances of '" ++ left ++ "' and '" ++ right ++ "'"
  | .notSubscriptable type => "'" ++ type ++ "' object is not subscriptable"
  | .classNotSubscriptable name => "type '" ++ name ++ "' is not subscriptable"
  | .indexType sequence type =>
    sequence ++ " indices must be integers or slices, not " ++ type
  | .textIndexType type => "string indices must be integers, not '" ++ type ++ "'"
  | .sliceBound => "slice indices must be integers or None or have an __index__ method"
  | .notCallable type => "'" ++ type ++ "' object is not callable"
  | .noLength type => "object of type '" ++ type ++ "' has no len()"
  | .unsized => "len() of unsized object"
  | .iterationWithoutAxes => "iteration over a 0-d array"
  | .notIterable type => "'" ++ type ++ "' object is not iterable"
  | .notContainer type => "argument of type '" ++ type ++ "' is not iterable"
  | .textMembership type => "'in <string>' requires string as left operand, not " ++ type
  | .byteRange => "byte must be in range(0, 256)"
  | .notBytes type => "a bytes-like object is required, not '" ++ type ++ "'"
  | .floatArgument type =>
    "float() argument must be a string or a real number, not '" ++ type ++ "'"
  | .intArgument type =>
    "int() argument must be a string, a bytes-like object or a real number, not '" ++ type ++ "'"
  | .absArgument type => "bad operand type for abs(): '" ++ type ++ "'"
  | .notWhole type => "'" ++ type ++ "' object cannot be interpreted as an integer"
  | .notShape value =>
    "expected a sequence of integers or a single integer, got '" ++ value.repr ++ "'"
  | .dimensionNotWhole => "an integer is required"
  | .noFormat type => "unsupported format string passed to " ++ type ++ ".__format__"
  | .joinItem index type =>
    "sequence item " ++ toString index ++ ": expected str instance, " ++ type ++ " found"
  | .fixedDifference =>
    "numpy boolean subtract, the `-` operator, is not supported, use the bitwise_xor, the `^` " ++
      "operator, or the logical_xor function instead."
  | .fixedOpposite =>
    "The numpy boolean negative, the `-` operator, is not supported, use the `~` operator or " ++
      "the logical_not function instead."
  | .noLoop function types =>
    let named := types.map fun t => "<class 'numpy.dtypes." ++ t ++ "'>"
    "ufunc '" ++ function ++ "' did not contain a loop with signature matching types " ++
      (match named with
        | [t] => t
        | ts => tupleText ts) ++ " -> None"
  | .noSafeLoop function =>
    "ufunc '" ++ function ++ "' not supported for the input types, and the inputs could not be " ++
      "safely coerced to any supported types according to the casting rule ''safe''"
  | .fixedPower => "Integers to negative integer powers are not allowed."
  | .scalarIndex => "invalid index to scalar variable."
  | .truthOfMany =>
    "The truth value of an array with more than one element is ambiguous. Use a.any() or a.all()"
  | .truthOfNone =>
    "The truth value of an empty array is ambiguous. Use `array.size > 0` to check that an " ++
      "array is not empty."
  | .notSingle => "only 0-dimensional arrays can be converted to Python scalars"
  | .notScalarIndex => "only integer scalar arrays can be converted to a scalar index"
  | .arrayIndex =>
    "only integers, slices (`:`), ellipsis (`...`), numpy.newaxis (`None`) and integer or " ++
      "boolean arrays are valid indices"
  | .arrayRange index axis size =>
    "index " ++ toString index ++ " is out of bounds for axis " ++ toString axis ++
      " with size " ++ toString size
  | .tooManyIndices axes given =>
    "too many indices for array: array is " ++ toString axes ++ "-dimensional, but " ++
      toString given ++ " were indexed"
  | .shapesApart left right =>
    "operands could not be broadcast together with shapes " ++ compactShape left ++ " " ++
      compactShape right ++ " "
  | .formatIncomplete => "incomplete format"
  | .formatKeyIncomplete => "incomplete format key"
  | .formatArguments => "not enough arguments for format string"
  | .formatMapping => "format requires a mapping"
  | .formatStar => "* wants int"
  | .formatWidth => "width too big"
  | .formatPrecision word => word ++ " too big"
  | .formatSign shown code index =>
    "unsupported format character '" ++ shown ++ "' (0x" ++ String.ofList (Nat.toDigits 16 code) ++
      ") at index " ++ toString index
  | .formatReal sign type =>
    "%" ++ sign.toString ++ " format: a real number is required, not " ++ type
  | .formatWhole sign type =>
    "%" ++ sign.toString ++ " format: an integer is required, not " ++ type
  | .formatFloat type => "must be real number, not " ++ type
  | .formatFloatBytes type => "float argument required, not " ++ type
  | .formatCharacter => "%c requires int or char"
  | .formatByte => "%c requires an integer in range(256) or a single byte"
  | .formatBytes type =>
    "%b requires a bytes-like object, or an object that implements __bytes__, not '" ++ type ++ "'"
  | .digitLimit =>
    "Exceeds the limit (" ++ toString Decimal.maxDigits ++ " digits) for integer string " ++
      "conversion; use sys.set_int_max_str_digits() to increase the limit"
  | .digitsGiven count =>
    "Exceeds the limit (" ++ toString Decimal.maxDigits ++ " digits) for integer string " ++
      "conversion: value has " ++ toString count ++
      " digits; use sys.set_int_max_str_digits() to increase the limit"
  | .negativeShift => "negative shift count"
  | .intText base text =>
    "invalid literal for int() with base " ++ toString base ++ ": " ++ shortened 200 text.repr
  | .intBase => "int() base must be >= 2 and <= 36, or 0"
  | .intTextMissing => "int() missing string argument"
  | .intBaseWithoutText => "int() can't convert non-string with explicit base"
  | .decodedText => "decoding str is not supported"
  | .decodedValue type => "decoding to str: need a bytes-like object, " ++ type ++ " found"
  | .argumentType function name expected type =>
    function ++ "() argument '" ++ name ++ "' must be " ++ expected ++ ", not " ++ type
  | .floatText text => "could not convert string to float: " ++ text.repr
  | .fixedFloatText text => "could not convert string to float: np.str_(" ++ Text.quote text ++ ")"
  | .nanToInt => "cannot convert float NaN to integer"
  | .emptyArgument function => function ++ "() arg is an empty sequence"
  | .zeroStep function =>
    if function = "slice" then "slice step cannot be zero" else "range() arg 3 must not be zero"
  | .dropRate rate => "pdrop " ++ rate.display ++ " out of range [0, 1)"
  | .ragged shape =>
    "setting an array element with a sequence. The requested array has an inhomogeneous shape " ++
      "after " ++ toString shape.length ++ " dimensions. The detected shape was " ++
      shapeText shape ++ " + inhomogeneous part."
  | .broadcast source target =>
    "could not broadcast input array from shape " ++ compactShape source ++ " into shape " ++
      compactShape target
  | .nestedTooDeep =>
    "setting an array element with a sequence. The requested array would exceed the maximum " ++
      "number of dimension of 64."
  | .tooManyDimensions count =>
    "maximum supported dimension for an ndarray is currently 64, found " ++ toString count
  | .dimensionTooLarge => "Maximum allowed dimension exceeded"
  | .arrayTooBig =>
    "array is too big; `arr.size * arr.dtype.itemsize` is larger than the maximum possible size."
  | .updateItem index length =>
    "dictionary update sequence element #" ++ toString index ++ " has length " ++ toString length ++
      "; 2 is required"
  | .negativeDimension => "negative dimensions are not allowed"
  | .repeatedInput symbol => "Net input '" ++ symbol.display ++ "' declared more than once"
  | .nothingToUnpack => "not enough values to unpack (expected 1, got 0)"
  | .formalName name => Text.quote name ++ " is not a valid parameter name"
  | .constantName name => "identifier field can't represent '" ++ name ++ "' constant"
  | .undefinedName name => "name '" ++ shortened 200 name ++ "' is not defined"
  | .unboundLocal name =>
    "cannot access local variable '" ++ name ++ "' where it is not associated with a value"
  | .missingKey key => key.repr
  | .indexRange "index" => "index out of range"
  | .indexRange sequence => sequence ++ " index out of range"
  | .noAttribute type name => "'" ++ type ++ "' object has no attribute '" ++ name ++ "'"
  | .noClassAttribute cls name =>
    "type object '" ++ cls ++ "' has no attribute '" ++ name ++ "'"
  | .dividedByZero division => division.message
  | .overflow result => result.message
  | .indexTooLarge => Overflow.toIndex.message
  | .outOfMemory | .notImplemented => ""
  | .sourceUnavailable => "source code not available"
  | .notLoadable path => "Could not load module from " ++ path
  | .fileMissing path => "[Errno 2] No such file or directory: " ++ Text.quote path
  | .fileIsDirectory path => "[Errno 21] Is a directory: " ++ Text.quote path
  | .notDirectory path => "[Errno 20] Not a directory: " ++ Text.quote path
  | .fileExists path => "[Errno 17] File exists: " ++ Text.quote path
  | .nameTooLong path => "[Errno 36] File name too long: " ++ Text.quote path
  | .nullInPath => "embedded null byte"
  | .notPath type => "expected str, bytes or os.PathLike object, not " ++ type
  | .noAssignmentSign text => "expected NAME=VALUE, got '" ++ text ++ "'"
  | .raised kind text => if kind = .missingKey then Text.quote text else text

/-- A fault as it arises: to tell of a value that has no text is a fault of its own. -/
def Fault.settled (f : Fault) : Fault :=
  let shown : List Value := match f with
    | .notShape v | .dropRate v | .repeatedInput v => [v]
    | _ => []
  if writableList shown then f else .digitLimit

/-- Has a fault a text? The key that is missing may have none. -/
def Fault.writable : Fault → Bool
  | .missingKey key => key.writable
  | _ => true

/-- The text of a value, if it has one. -/
def Value.written (v : Value) : Except Fault String :=
  if v.writable then pure v.repr else throw .digitLimit

/-- A value in running text, if it has one. -/
def Value.displayed (v : Value) : Except Fault String :=
  if v.writable then pure v.display else throw .digitLimit

end Laminar
