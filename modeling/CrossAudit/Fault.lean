import CrossAudit.Json.Basic
import CrossAudit.Text.Quoted

/-!
# Faults

Options, notes and settings are documents of free shape.  Where the program needs a particular
shape and finds another one, it fails with a `Fault`.  So it does where a setting leads to a path
that cannot be followed.
-/

namespace CrossAudit

/-! ## Errors of files -/

/-- Why a file cannot be read or written. -/
inductive FileError where
  | noSuchFile (path : String)
  | notDirectory (path : String)
  | isDirectory (path : String)
  | nameTooLong (path : String)
  deriving Repr, DecidableEq

/-- The wording of such an error, with the number that the system gives it. -/
def FileError.message : FileError → String
  | .noSuchFile p => "[Errno 2] No such file or directory: " ++ Quoted.quote p
  | .notDirectory p => "[Errno 20] Not a directory: " ++ Quoted.quote p
  | .isDirectory p => "[Errno 21] Is a directory: " ++ Quoted.quote p
  | .nameTooLong p => "[Errno 36] File name too long: " ++ Quoted.quote p

/-! ## Faults -/

/-- What keeps the program from going on.  A shape is given by its name; what a library or the
system raises beyond that, such as bytes that are no text or a malformed pattern, by its wording. -/
inductive Fault where
  | notIterable (shape : String)
  | unhashable (shape : String)
  | noAttribute (shape wanted : String)
  | notInteger (text : String)
  | notIntegral (shape : String)
  | tooManyDigits (count : Nat)
  | infiniteInteger
  | undefinedInteger
  | notNumeric (text : String)
  | notReal (shape : String)
  | tooLargeReal
  | incomparable (left right : String)
  | notPath (shape : String)
  | homeless
  | nullByte
  | file (error : FileError)
  | notSubscriptable (shape : String)
  | notAssignable (shape : String)
  | notSearchable (shape : String)
  | textPositions
  | listPositions
  | outOfRange (shape : String)
  | noKey (key : String)
  | tooLargeCode
  | notLoadable
  | raised (wording : String)
  deriving Repr, DecidableEq

namespace Fault

/-- The wording of a fault.  Of a text that is no integer, messages show the beginning. -/
def message : Fault → String
  | .notIterable s => "'" ++ s ++ "' object is not iterable"
  | .unhashable s => "unhashable type: '" ++ s ++ "'"
  | .noAttribute s a => "'" ++ s ++ "' object has no attribute '" ++ a ++ "'"
  | .notInteger t =>
    "invalid literal for int() with base 10: " ++ String.ofList ((Quoted.quote t).toList.take 200)
  | .notIntegral s =>
    "int() argument must be a string, a bytes-like object or a real number, not '" ++ s ++ "'"
  | .tooManyDigits n =>
    "Exceeds the limit (4300 digits) for integer string conversion: value has " ++ toString n ++
      " digits; use sys.set_int_max_str_digits() to increase the limit"
  | .infiniteInteger => "cannot convert float infinity to integer"
  | .undefinedInteger => "cannot convert float NaN to integer"
  | .notNumeric t => "could not convert string to float: " ++ Quoted.quote t
  | .notReal s => "float() argument must be a string or a real number, not '" ++ s ++ "'"
  | .tooLargeReal => "int too large to convert to float"
  | .incomparable a b => "'<' not supported between instances of '" ++ a ++ "' and '" ++ b ++ "'"
  | .notPath s => "expected str, bytes or os.PathLike object, not " ++ s
  | .homeless => "Could not determine home directory."
  | .nullByte => "embedded null byte"
  | .file e => e.message
  | .notSubscriptable s => "'" ++ s ++ "' object is not subscriptable"
  | .notAssignable s => "'" ++ s ++ "' object does not support item assignment"
  | .notSearchable s => "argument of type '" ++ s ++ "' is not iterable"
  | .textPositions => "string indices must be integers, not 'str'"
  | .listPositions => "list indices must be integers or slices, not str"
  | .outOfRange s => s ++ " index out of range"
  | .noKey k => Quoted.quote k
  | .tooLargeCode => "Python int too large to convert to C int"
  | .notLoadable => "You can only load a file descriptor, filename or list"
  | .raised w => w

end Fault

namespace Json

/-- The elements that a value is run through: items, keys, or characters. -/
def elements (v : Json) : Except Fault (List Json) :=
  match v with
  | .arr xs => .ok xs
  | .obj ms => .ok (ms.map fun m => .str m.1)
  | .str s => .ok (s.toList.map fun c => .str (String.singleton c))
  | v => .error (.notIterable v.shapeName)

/-- Looks up a member of a value that has to be an object. -/
def member (v : Json) (key : String) : Except Fault (Option Json) :=
  match v with
  | .obj ms => .ok (ms.lookup key)
  | v => .error (.noAttribute v.shapeName "get")

end Json
end CrossAudit
