/-
What can be wrong with a value.

Every issue carries one code out of a closed list. A code has a wire name and belongs to a
category, so that a caller can treat, say, everything a security guard refused in one way.
-/

set_option autoImplicit false

namespace ValueSchema

/-- The families of codes. -/
inductive Category
  | typeMismatch
  | constraint
  | structural
  | security
  | userCode
deriving DecidableEq, Repr

/-- The code of an issue. -/
inductive Code
  | notString
  | notNumber
  | notBoolean
  | notBigInt
  | notSymbol
  | notDate
  | notNull
  | notUndefined
  | notObject
  | notArray
  | notMap
  | notSet
  | never
  | stringTooShort
  | stringTooLong
  | stringInvalidLength
  | stringPatternMismatch
  | stringInvalidPrefix
  | stringInvalidSuffix
  | stringMissingSubstring
  | invalidEmail
  | invalidUrl
  | invalidUuid
  | invalidDatetime
  | numberTooSmall
  | numberTooBig
  | numberNotInteger
  | numberNotFinite
  | numberNotSafe
  | numberNotPositive
  | numberNotNegative
  | numberNotMultiple
  | invalidDate
  | dateTooEarly
  | dateTooLate
  | bigIntTooSmall
  | bigIntTooBig
  | arrayTooShort
  | arrayTooLong
  | arrayInvalidLength
  | arrayNotUnique
  | setTooSmall
  | setTooBig
  | invalidLiteral
  | invalidEnumValue
  | objectUnknownKey
  | unionNoMatch
  | invalidDiscriminator
  | intersectionConflict
  | securityDangerousKey
  | securityMaxDepth
  | securityInputTooLong
  | securityUnsafePattern
  | securityRegexTimeout
  | refinementFailed
  | transformFailed
  | custom
deriving DecidableEq, Repr, Inhabited

namespace Code

/-- Every code, in the order of declaration. -/
def all : List Code :=
  [ .notString, .notNumber, .notBoolean, .notBigInt, .notSymbol, .notDate, .notNull,
    .notUndefined, .notObject, .notArray, .notMap, .notSet, .never, .stringTooShort,
    .stringTooLong, .stringInvalidLength, .stringPatternMismatch, .stringInvalidPrefix,
    .stringInvalidSuffix, .stringMissingSubstring, .invalidEmail, .invalidUrl, .invalidUuid,
    .invalidDatetime, .numberTooSmall, .numberTooBig, .numberNotInteger, .numberNotFinite,
    .numberNotSafe, .numberNotPositive, .numberNotNegative, .numberNotMultiple, .invalidDate,
    .dateTooEarly, .dateTooLate, .bigIntTooSmall, .bigIntTooBig, .arrayTooShort,
    .arrayTooLong, .arrayInvalidLength, .arrayNotUnique, .setTooSmall, .setTooBig,
    .invalidLiteral, .invalidEnumValue, .objectUnknownKey, .unionNoMatch,
    .invalidDiscriminator, .intersectionConflict, .securityDangerousKey, .securityMaxDepth,
    .securityInputTooLong, .securityUnsafePattern, .securityRegexTimeout, .refinementFailed,
    .transformFailed, .custom ]

/-- The wire name. -/
def name : Code → String
  | .notString => "NOT_STRING"
  | .notNumber => "NOT_NUMBER"
  | .notBoolean => "NOT_BOOLEAN"
  | .notBigInt => "NOT_BIGINT"
  | .notSymbol => "NOT_SYMBOL"
  | .notDate => "NOT_DATE"
  | .notNull => "NOT_NULL"
  | .notUndefined => "NOT_UNDEFINED"
  | .notObject => "NOT_OBJECT"
  | .notArray => "NOT_ARRAY"
  | .notMap => "NOT_MAP"
  | .notSet => "NOT_SET"
  | .never => "NEVER"
  | .stringTooShort => "STRING_TOO_SHORT"
  | .stringTooLong => "STRING_TOO_LONG"
  | .stringInvalidLength => "STRING_INVALID_LENGTH"
  | .stringPatternMismatch => "STRING_PATTERN_MISMATCH"
  | .stringInvalidPrefix => "STRING_INVALID_PREFIX"
  | .stringInvalidSuffix => "STRING_INVALID_SUFFIX"
  | .stringMissingSubstring => "STRING_MISSING_SUBSTRING"
  | .invalidEmail => "INVALID_EMAIL"
  | .invalidUrl => "INVALID_URL"
  | .invalidUuid => "INVALID_UUID"
  | .invalidDatetime => "INVALID_DATETIME"
  | .numberTooSmall => "NUMBER_TOO_SMALL"
  | .numberTooBig => "NUMBER_TOO_BIG"
  | .numberNotInteger => "NUMBER_NOT_INTEGER"
  | .numberNotFinite => "NUMBER_NOT_FINITE"
  | .numberNotSafe => "NUMBER_NOT_SAFE"
  | .numberNotPositive => "NUMBER_NOT_POSITIVE"
  | .numberNotNegative => "NUMBER_NOT_NEGATIVE"
  | .numberNotMultiple => "NUMBER_NOT_MULTIPLE"
  | .invalidDate => "INVALID_DATE"
  | .dateTooEarly => "DATE_TOO_EARLY"
  | .dateTooLate => "DATE_TOO_LATE"
  | .bigIntTooSmall => "BIGINT_TOO_SMALL"
  | .bigIntTooBig => "BIGINT_TOO_BIG"
  | .arrayTooShort => "ARRAY_TOO_SHORT"
  | .arrayTooLong => "ARRAY_TOO_LONG"
  | .arrayInvalidLength => "ARRAY_INVALID_LENGTH"
  | .arrayNotUnique => "ARRAY_NOT_UNIQUE"
  | .setTooSmall => "SET_TOO_SMALL"
  | .setTooBig => "SET_TOO_BIG"
  | .invalidLiteral => "INVALID_LITERAL"
  | .invalidEnumValue => "INVALID_ENUM_VALUE"
  | .objectUnknownKey => "OBJECT_UNKNOWN_KEY"
  | .unionNoMatch => "UNION_NO_MATCH"
  | .invalidDiscriminator => "INVALID_DISCRIMINATOR"
  | .intersectionConflict => "INTERSECTION_CONFLICT"
  | .securityDangerousKey => "SECURITY_DANGEROUS_KEY"
  | .securityMaxDepth => "SECURITY_MAX_DEPTH"
  | .securityInputTooLong => "SECURITY_INPUT_TOO_LONG"
  | .securityUnsafePattern => "SECURITY_UNSAFE_PATTERN"
  | .securityRegexTimeout => "SECURITY_REGEX_TIMEOUT"
  | .refinementFailed => "REFINEMENT_FAILED"
  | .transformFailed => "TRANSFORM_FAILED"
  | .custom => "CUSTOM"

/-- The family of a code. -/
def category : Code → Category
  | .notString => .typeMismatch
  | .notNumber => .typeMismatch
  | .notBoolean => .typeMismatch
  | .notBigInt => .typeMismatch
  | .notSymbol => .typeMismatch
  | .notDate => .typeMismatch
  | .notNull => .typeMismatch
  | .notUndefined => .typeMismatch
  | .notObject => .typeMismatch
  | .notArray => .typeMismatch
  | .notMap => .typeMismatch
  | .notSet => .typeMismatch
  | .never => .typeMismatch
  | .stringTooShort => .constraint
  | .stringTooLong => .constraint
  | .stringInvalidLength => .constraint
  | .stringPatternMismatch => .constraint
  | .stringInvalidPrefix => .constraint
  | .stringInvalidSuffix => .constraint
  | .stringMissingSubstring => .constraint
  | .invalidEmail => .constraint
  | .invalidUrl => .constraint
  | .invalidUuid => .constraint
  | .invalidDatetime => .constraint
  | .numberTooSmall => .constraint
  | .numberTooBig => .constraint
  | .numberNotInteger => .constraint
  | .numberNotFinite => .constraint
  | .numberNotSafe => .constraint
  | .numberNotPositive => .constraint
  | .numberNotNegative => .constraint
  | .numberNotMultiple => .constraint
  | .invalidDate => .constraint
  | .dateTooEarly => .constraint
  | .dateTooLate => .constraint
  | .bigIntTooSmall => .constraint
  | .bigIntTooBig => .constraint
  | .arrayTooShort => .constraint
  | .arrayTooLong => .constraint
  | .arrayInvalidLength => .constraint
  | .arrayNotUnique => .constraint
  | .setTooSmall => .constraint
  | .setTooBig => .constraint
  | .invalidLiteral => .constraint
  | .invalidEnumValue => .constraint
  | .objectUnknownKey => .structural
  | .unionNoMatch => .structural
  | .invalidDiscriminator => .structural
  | .intersectionConflict => .structural
  | .securityDangerousKey => .security
  | .securityMaxDepth => .security
  | .securityInputTooLong => .security
  | .securityUnsafePattern => .security
  | .securityRegexTimeout => .security
  | .refinementFailed => .userCode
  | .transformFailed => .userCode
  | .custom => .userCode

/-- The code with a given wire name. -/
def ofName? (name : String) : Option Code := all.find? fun c => c.name == name

/-- The code reports a refusal by a security guard. -/
def isSecurity (c : Code) : Bool := c.category == .security

theorem mem_all (c : Code) : c ∈ all := by cases c <;> decide

end Code

end ValueSchema
