namespace WorkflowScript

inductive JobFlaw where
  | declaredTwice
  | axisNotSequence (axis : String)
  | axisNotScalar (axis : String)
  | axisEmpty (axis : String)
  | runnerMissing
  | runnerEntryNotScalar
  | runnerInvalid
  deriving DecidableEq, Repr

def JobFlaw.message : JobFlaw → String
  | .declaredTwice => "is declared more than once (job names are not case sensitive)"
  | .axisNotSequence axis => "matrix '" ++ axis ++ "' must be a sequence"
  | .axisNotScalar axis => "matrix '" ++ axis ++ "' values must be scalars"
  | .axisEmpty axis => "matrix '" ++ axis ++ "' must not be empty"
  | .runnerMissing => "must specify runs-on"
  | .runnerEntryNotScalar => "runs-on entries must be scalars"
  | .runnerInvalid => "has invalid runs-on definition"

inductive CompileError where
  | noJobs
  | structural (job : String) (flaw : JobFlaw)
  | unsupportedShell (job step : String)
  | undefinedInput (name : String)
  | missingInputDefault (name : String)
  | undefinedMatrixValue (name : String)
  | unsupportedExpression (line : String)
  deriving DecidableEq, Repr

def CompileError.message : CompileError → String
  | .noJobs => "No jobs found in workflow."
  | .structural job flaw => "Job '" ++ job ++ "' " ++ flaw.message ++ "."
  | .unsupportedShell job step =>
    "Job '" ++ job ++ "' step '" ++ step ++
      "' specifies shell; custom shells are not supported."
  | .undefinedInput name => "Input '" ++ name ++ "' not defined."
  | .missingInputDefault name => "Input '" ++ name ++ "' has no default value."
  | .undefinedMatrixValue name => "Matrix value '" ++ name ++ "' not defined."
  | .unsupportedExpression line => "Unsupported template expression found: " ++ line

end WorkflowScript
