import SqlVerbs.Calendar.Fields
import SqlVerbs.Pattern.Failure

/-!
# Why local evaluation fails

The causes of local failures and their wording.
-/

namespace SqlVerbs.Local

/-- Why an expression has no local value. -/
inductive Reason where
  | listInSql
  | listInFunction
  | subscriptNotString
  | subscriptNotNumber
  | subscriptNotFinite
  | subscriptOutOfBounds
  | subscriptType
  | subscriptNotPositive
  | logicalSubscript
  | notSubsettable
  | memberOfAtomic
  | notFound (name : String)
  | remoteColumn (name : String)
  | remoteColumnInComputation
  /-- A string where a number is needed, and what for. -/
  | nonNumeric (what : String)
  | nonLogical
  | lengthZero
  | badArgument (name : String)
  | notANumber
  | negativeLength
  | sequenceTooLong
  | badDate (failure : Calendar.DateFailure)
  | missingDate
  | dateOutOfRange
  | notOneDate
  | emptyBranches
  | missingCondition
  | wrongArguments (function : String) (count : Nat)
  | noFunction (name : String)
  | badPattern (failure : Pattern.PatternFailure)
deriving DecidableEq, Repr

namespace Reason

def message : Reason → String
  | .listInSql => "a list cannot be translated to SQL"
  | .listInFunction => "a list cannot be used here"
  | .subscriptNotString => "subscript must be a single string"
  | .subscriptNotNumber => "subscript must be a single number"
  | .subscriptNotFinite => "subscript must be a finite number"
  | .subscriptOutOfBounds => "subscript out of bounds"
  | .subscriptType => "invalid subscript type"
  | .subscriptNotPositive => "only positive subscripts are supported"
  | .logicalSubscript => "logical subscripts are not supported locally"
  | .notSubsettable => "object is not subsettable"
  | .memberOfAtomic => "$ operator is invalid for atomic vectors"
  | .notFound name => "object '" ++ name ++ "' not found"
  | .remoteColumn name => "`" ++ name ++ "` is a remote column and cannot be used locally"
  | .remoteColumnInComputation => "a remote column cannot be used in a local computation"
  | .nonNumeric what => "non-numeric argument to " ++ what
  | .nonLogical => "invalid 'x' type in logical operation"
  | .lengthZero => "argument is of length zero"
  | .badArgument name => "invalid '" ++ name ++ "' argument"
  | .notANumber => "NA/NaN argument"
  | .negativeLength => "argument of length 0"
  | .sequenceTooLong => "sequence is too long to evaluate locally"
  | .badDate failure =>
    "character string is not in a standard date format: " ++ failure.message
  | .missingDate => "NA date"
  | .dateOutOfRange => "date out of range"
  | .notOneDate => "as.Date() folds only single values"
  | .emptyBranches => "'yes' and 'no' must not be empty"
  | .missingCondition => "missing value where TRUE/FALSE needed"
  | .wrongArguments function count =>
    "invalid arguments to " ++ function ++ "() (" ++ toString count ++ " given)"
  | .noFunction name => "could not find function \"" ++ name ++ "\""
  | .badPattern failure => failure.message

end Reason

end SqlVerbs.Local
