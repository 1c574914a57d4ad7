/-!
What can go wrong while a request is read. A failure is kept by its cause, and
`message` words it. Causes on the level of the request end the reading; a cause
on the level of one key only drops that key.
-/

namespace ResourceQuery

inductive OperandFault
  | twoBounds
  | numeric (operator : String)
  | lengthBounds
  | numericBounds
  | custom (text : String)
  deriving DecidableEq, Repr

def OperandFault.message : OperandFault → String
  | .twoBounds => "between operator requires format: \"min,max\""
  | .numeric operator => operator ++ " requires a numeric value"
  | .lengthBounds => "size_between requires format: \"min,max\""
  | .numericBounds => "size_between requires valid numeric values"
  | .custom text => text

inductive QueryError
  | tooManyFields (count : Nat) (cap : Int)
  | valueTooLong (length cap : Nat)
  | listTooLong (length : Nat) (cap : Int)
  | malformedOperand (fault : OperandFault)
  | unsupportedOperator (name : String)
  | refused (text : String)
  /-- A length operator was applied as if it compared values. -/
  | lengthOperator (name : String)
  | unknownLengthOperator (name : String)
  | indivisible (kind : String)
  | unmeasurable (kind : String)
  | unhashable (kind : String)
  | numeralTooLong (digits : Nat)
  | repeatTooLarge
  | incompatibleFlags
  /-- A pattern gives a character by a number that is beyond all machine integers. -/
  | codeTooLarge
  | lookTooFar
  | nestedTooDeep
  /-- A part of a date text has a whole part too large to be split from its fraction. -/
  | undividedPart
  | zoneTooFar
  deriving DecidableEq, Repr

namespace QueryError

def message : QueryError → String
  | .tooManyFields count cap =>
    "Too many query fields: " ++ toString count ++ " (max: " ++ toString cap ++ ")"
  | .valueTooLong length cap =>
    "Input value too long: " ++ toString length ++ " characters (max: " ++ toString cap ++ ")"
  | .listTooLong length cap =>
    "Array too large: " ++ toString length ++ " items (max: " ++ toString cap ++ ")"
  | .malformedOperand fault => fault.message
  | .unsupportedOperator name => "Unsupported filter operator: " ++ name
  | .refused text => text
  | .lengthOperator name =>
    "Array size operator " ++ name ++ " should be handled by ArraySizeHelper"
  | .unknownLengthOperator name => name
  | .indivisible kind => "'" ++ kind ++ "' object has no attribute 'split'"
  | .unmeasurable kind => "object of type '" ++ kind ++ "' has no len()"
  | .unhashable kind => "unhashable type: '" ++ kind ++ "'"
  | .numeralTooLong digits =>
    "Exceeds the limit (4300 digits) for integer string conversion: value has " ++
      toString digits ++ " digits; use sys.set_int_max_str_digits() to increase the limit"
  | .repeatTooLarge => "the repetition number is too large"
  | .incompatibleFlags => "ASCII and UNICODE flags are incompatible"
  | .codeTooLarge => "Python int too large to convert to C int"
  | .lookTooFar => "invalid SRE code"
  | .nestedTooDeep => "maximum recursion depth exceeded while calling a Python object"
  | .undividedPart => "[<class 'decimal.DivisionImpossible'>]"
  | .zoneTooFar =>
    "offset must be a timedelta strictly between -timedelta(hours=24) and timedelta(hours=24)."

def isInvalidQuery : QueryError → Bool
  | .tooManyFields .. | .valueTooLong .. | .listTooLong .. | .malformedOperand _
  | .unsupportedOperator _ | .refused _ => true
  | _ => false

/-- Only an operator that is unknown or that refuses its operand leaves the rest of the
request readable. -/
def isKeyLevel : QueryError → Bool
  | .unsupportedOperator _ | .refused _ => true
  | _ => false

end QueryError
end ResourceQuery
