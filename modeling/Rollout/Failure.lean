import Rollout.Release.Phase
import Rollout.Resource.Basic

/-!
# Failures

What can go wrong, by cause.  Each family of failures has its causes as constructors and its wording
in one function; `Failure` joins the families and `Failure.message` is the text that reports,
records and callers see.

Generators, patchers, secret stores and backends are supplied from outside.  A failure of theirs is
either one of the engine's own, with a wording of its own (`reported`), or `foreign`.
-/

set_option autoImplicit false

namespace Rollout

/-! ## Configuration -/

/-- Why a configuration is refused. -/
inductive ConfigurationError where
  /-- A provider source is not `namespace/name`, with a host or a version at most. -/
  | providerSource (source : String)
  | noProvider
  | manyProviders (kinds : List String)
  /-- Several patch blocks of a module select one project. -/
  | overlap (project : String) (blocks : List String)
  | noAdapter (backend : Backend)
  /-- Everything that is wrong with a workspace. -/
  | issues (texts : List String)
  | reported (text : String)
deriving DecidableEq, Repr

/-- The wording of a refused configuration. -/
def ConfigurationError.message : ConfigurationError → String
  | .providerSource source => "Invalid Terraform provider source: " ++ Text.quoted source
  | .noProvider => "secret store provider spec configures no provider"
  | .manyProviders kinds =>
    "secret store provider spec configures multiple providers: " ++ Text.join ", " kinds
  | .overlap project blocks =>
    "project " ++ project ++ " is selected by multiple patchers: " ++ Text.join ", " blocks
  | .noAdapter backend => "No runtime adapter registered for " ++ backend.name ++ " resources"
  | .issues texts => Text.join "; " texts
  | .reported text => text

/-! ## Graphs and plans -/

/-- Why a collection of resources, or of actions, cannot be ordered. -/
inductive GraphError where
  | duplicate (id : String)
  /-- A resource needs one that is not in the collection. -/
  | dangling (id missing : String)
  /-- A closed path of resources, or the actions that wait for each other. -/
  | cycle (ids : List String)
  | reported (text : String)
deriving DecidableEq, Repr

/-- The wording of a collection that cannot be ordered. -/
def GraphError.message : GraphError → String
  | .duplicate id => "Duplicate resource ID: " ++ id
  | .dangling id missing => "Resource " ++ id ++ " depends on unknown resource " ++ missing
  | .cycle ids => "Dependency cycle detected: " ++ Text.join " → " ids
  | .reported text => text

/-- Why a change of one resource is refused. -/
inductive ChangeError where
  | emptyId
  | createSides
  | deleteSides
  /-- An update, or a resource that stays, lacks one of its two versions. -/
  | missingSide (action : Action)
deriving DecidableEq, Repr

/-- The wording of a refused change. -/
def ChangeError.message : ChangeError → String
  | .emptyId => "Resource ID cannot be empty"
  | .createSides => "CREATE change must have only a desired resource"
  | .deleteSides => "DELETE change must have only a current resource"
  | .missingSide action => action.name ++ " change must have current and desired resources"

/-! ## Generation -/

/-- Why a generator failed. -/
inductive GenerationError where
  | generator (name text : String)
  | reported (text : String)
deriving DecidableEq, Repr

/-- The wording of a failed generator. -/
def GenerationError.message : GenerationError → String
  | .generator name text => "generator " ++ name ++ " failed: " ++ text
  | .reported text => text

/-- Why a patcher failed. -/
inductive PatchError where
  | patcher (name text : String)
  | reported (text : String)
deriving DecidableEq, Repr

/-- The wording of a failed patcher. -/
def PatchError.message : PatchError → String
  | .patcher name text => "patcher " ++ name ++ " failed: " ++ text
  | .reported text => text

/-- Why a secret could not be resolved. -/
inductive SecretError where
  | unregistered (kind : String)
  | noProperty (name property : String)
  | notFound (name version : String)
  | unreadable (name text : String)
  | noValue (name : String)
  | reported (text : String)
deriving DecidableEq, Repr

/-- The wording of a secret that could not be resolved. -/
def SecretError.message : SecretError → String
  | .unregistered kind => "no secret store registered for provider " ++ kind
  | .noProperty name property => "secret " ++ name ++ " has no property " ++ property
  | .notFound name version =>
    "secret " ++ name ++ (if version = "" then "" else " version " ++ version) ++ " not found"
  | .unreadable name text => "failed to read secret " ++ name ++ ": " ++ text
  | .noValue name => "secret store returned no value for " ++ name
  | .reported text => text

/-! ## Values -/

/-- The name of a value's sort. -/
def Value.sort : Value → String
  | .null => "NoneType"
  | .bool _ => "bool"
  | .int _ => "int"
  | .double _ => "float"
  | .str _ => "str"
  | .list _ => "list"
  | .object _ => "dict"

/-- A value that is not the object it was taken for. -/
inductive ValueMisuse where
  /-- An entry is to be put into it. -/
  | assign (v : Value)
  /-- It is to be asked for something that only objects know. -/
  | call (v : Value) (method : String)
deriving DecidableEq, Repr

namespace ValueMisuse

/-- The wording of a value that was taken for an object. -/
def message : ValueMisuse → String
  | .assign (.list _) => "list indices must be integers or slices, not str"
  | .assign v => "'" ++ v.sort ++ "' object does not support item assignment"
  | .call v method => "'" ++ v.sort ++ "' object has no attribute '" ++ method ++ "'"

/-- The name of the kind of misuse. -/
def kind : ValueMisuse → String
  | .assign _ => "TypeError"
  | .call _ _ => "AttributeError"

end ValueMisuse

/-! ## Execution -/

/-- A backend action, or a read, that failed. -/
structure ActionError where
  resource : String
  /-- What was done: an action or a read. -/
  action : String
  text : String
deriving DecidableEq, Repr

/-- The wording of a failed backend action. -/
def ActionError.message (e : ActionError) : String :=
  e.action ++ " " ++ e.resource ++ " failed: " ++ e.text

/-- Why limits of an execution are refused. -/
inductive LimitError where
  | timeout
  | concurrency
deriving DecidableEq, Repr

/-- The wording of refused limits. -/
def LimitError.message : LimitError → String
  | .timeout => "timeout must be > 0"
  | .concurrency => "max_concurrency must be > 0"

/-! ## Releases and stores -/

/-- Why a release may not change as asked. -/
inductive LifecycleError where
  | move (release : String) (source target : Phase)
  | specFrozen (release : String) (phase : Phase)
  | noSpec (release : String) (operation : Operation)
  | stateFixed (release : String) (phase : Phase)
  | stateRequired (release : String) (phase : Phase)
  | finished (release : String) (phase : Phase)
  /-- The stored record is terminal. -/
  | immutable (release : String)
  | reported (text : String)
deriving DecidableEq, Repr

/-- The wording of a change that is not allowed. -/
def LifecycleError.message : LifecycleError → String
  | .move release source target =>
    "Release " ++ release ++ " cannot move from " ++ source.name ++ " to " ++ target.name
  | .specFrozen release phase =>
    "Spec of release " ++ release ++ " is frozen in phase " ++ phase.name
  | .noSpec release operation =>
    "Release " ++ release ++ " has no Spec; cannot start " ++ operation.name
  | .stateFixed release phase =>
    "Release " ++ release ++ " cannot change State in phase " ++ phase.name
  | .stateRequired release phase =>
    "Release " ++ release ++ " must record a State when leaving " ++ phase.name
  | .finished release phase => "Release " ++ release ++ " is already " ++ phase.name
  | .immutable release => "Release " ++ release ++ " is terminal and immutable"
  | .reported text => text

/-- Which release does not exist. -/
inductive NotFoundError where
  /-- A release is saved at a revision that was never created or reserved. -/
  | neverCreated (release : String)
  | missing (release : String)
  | nothingToDestroy (triple : String)
  | reported (text : String)
deriving DecidableEq, Repr

/-- The wording of a release that does not exist. -/
def NotFoundError.message : NotFoundError → String
  | .neverCreated release => "Release " ++ release ++ " does not exist; create it before saving"
  | .missing release => "Release " ++ release ++ " not found"
  | .nothingToDestroy triple => "No release found for " ++ triple ++ "; nothing to destroy"
  | .reported text => text

/-- Why a store could not read or write. -/
inductive StoreError where
  | invalidName (part : String)
  | unloadable
  | noDirectory
  | unwritable
  | unreservable
  | reported (text : String)
deriving DecidableEq, Repr

/-- The wording of a store's failure. -/
def StoreError.message : StoreError → String
  | .invalidName part => "Invalid name for release storage: " ++ Text.quoted part
  | .unloadable => "Could not load release record"
  | .noDirectory => "Could not create release directory"
  | .unwritable => "Could not save release record"
  | .unreservable => "Could not reserve revision"
  | .reported text => text

/-- A revision that two releases claim. -/
inductive ConflictError where
  | taken (revision : Int) (triple : String)
  | reported (text : String)
deriving DecidableEq, Repr

/-- The wording of a claimed revision. -/
def ConflictError.message : ConflictError → String
  | .taken revision triple =>
    "Revision " ++ toString revision ++ " of " ++ triple ++ " already exists"
  | .reported text => text

/-! ## Records -/

/-- What is wrong with one field of a record. -/
inductive Fault where
  | missing
  | notString
  | emptyString
  | notObject
  | notList
  | notRecord
  | notLiteral
  | notInteger
  | noIntegerText
  | tooLarge
  | fraction
  | notFinite
  | belowMinimum
  | notAbove
  | notNumber
  | noNumberText
  | notTime
  | noTimeText
  | timeOutOfRange
deriving DecidableEq, Repr

/-- The short name of a fault. -/
def Fault.name : Fault → String
  | .missing => "missing"
  | .notString => "string_type"
  | .emptyString => "string_too_short"
  | .notObject => "dict_type"
  | .notList => "list_type"
  | .notRecord => "model_type"
  | .notLiteral => "enum"
  | .notInteger => "int_type"
  | .noIntegerText => "int_parsing"
  | .tooLarge => "int_parsing_size"
  | .fraction => "int_from_float"
  | .notFinite => "finite_number"
  | .belowMinimum => "greater_than_equal"
  | .notAbove => "greater_than"
  | .notNumber => "float_type"
  | .noNumberText => "float_parsing"
  | .notTime => "datetime_type"
  | .noTimeText => "datetime_from_date_parsing"
  | .timeOutOfRange => "datetime_parsing"

/-- A fault and the path to the field that has it. -/
structure Problem where
  path : List String
  fault : Fault
deriving DecidableEq, Repr

/-- The wording of a fault. -/
def Problem.message (p : Problem) : String := Text.join "." p.path ++ ": " ++ p.fault.name

/-! ## All failures -/

/-- Whatever can go wrong. -/
inductive Failure where
  | configuration (e : ConfigurationError)
  | graph (e : GraphError)
  | change (e : ChangeError)
  | generation (e : GenerationError)
  | patch (e : PatchError)
  | secret (e : SecretError)
  | action (e : ActionError)
  | limit (e : LimitError)
  | lifecycle (e : LifecycleError)
  | notFound (e : NotFoundError)
  | store (e : StoreError)
  | conflict (e : ConflictError)
  /-- A record with every problem found in it. -/
  | invalid (problems : List Problem)
  /-- An identifier cannot be built without its required parts. -/
  | incompleteId
  /-- A value is not the object it was taken for. -/
  | misuse (e : ValueMisuse)
  /-- A position lies outside a list. -/
  | outOfRange
  /-- A text that counts as digits is no number. -/
  | noNumeral (text : String)
  /-- A file cannot have a name so long. -/
  | nameTooLong (name : String)
  /-- A failure of the engine's own with no more to tell than its text. -/
  | general (text : String)
  /-- Time ran out. -/
  | timedOut (text : String)
  /-- The task was cancelled. -/
  | cancelled (text : String)
  /-- A failure of another kind, with the name of its kind. -/
  | foreign (kind text : String)
deriving DecidableEq, Repr

namespace Failure

/-- The wording of a failure. -/
def message : Failure → String
  | .configuration e => e.message
  | .graph e => e.message
  | .change e => e.message
  | .generation e => e.message
  | .patch e => e.message
  | .secret e => e.message
  | .action e => e.message
  | .limit e => e.message
  | .lifecycle e => e.message
  | .notFound e => e.message
  | .store e => e.message
  | .conflict e => e.message
  | .invalid problems => Text.join "; " (problems.map Problem.message)
  | .incompleteId => "apiVersion, kind and name are required for a Kubernetes resource ID"
  | .misuse e => e.message
  | .outOfRange => "list index out of range"
  | .noNumeral text => "invalid literal for int() with base 10: " ++ Text.quoted text
  | .nameTooLong name => "[Errno 36] File name too long: " ++ Text.quoted name
  | .general text => text
  | .timedOut text => text
  | .cancelled text => text
  | .foreign _ text => text

/-- The name of a failure's kind. -/
def kind : Failure → String
  | .configuration _ => "ConfigurationError"
  | .graph (.duplicate _) => "DuplicateIDError"
  | .graph (.dangling _ _) => "DanglingDependencyError"
  | .graph (.cycle _) => "CyclicDependencyError"
  | .graph (.reported _) => "GraphError"
  | .generation _ => "GenerationError"
  | .patch _ => "PatchError"
  | .secret _ => "SecretResolutionError"
  | .action _ => "BackendActionError"
  | .lifecycle _ => "InvalidTransitionError"
  | .notFound _ => "ReleaseNotFoundError"
  | .store _ => "StoreError"
  | .conflict _ => "RevisionConflictError"
  | .invalid _ => "ValidationError"
  | .change _ | .limit _ | .incompleteId | .noNumeral _ => "ValueError"
  | .misuse e => e.kind
  | .outOfRange => "IndexError"
  | .nameTooLong _ => "OSError"
  | .general _ => "ShipyardError"
  | .timedOut _ => "TimeoutError"
  | .cancelled _ => "CancelledError"
  | .foreign kind _ => kind

/-- Whether a failure is one of the engine's own, which its callers are prepared for. -/
def isOwn : Failure → Bool
  | .change _ | .limit _ | .invalid _ | .incompleteId | .misuse _ | .outOfRange | .noNumeral _
  | .nameTooLong _ | .timedOut _ | .cancelled _ | .foreign _ _ => false
  | .configuration _ | .graph _ | .generation _ | .patch _ | .secret _ | .action _ | .lifecycle _
  | .notFound _ | .store _ | .conflict _ | .general _ => true

/-- An ordinary failure: not the cancelling of a task. -/
def IsOrdinary (e : Failure) : Prop := ∀ text, e ≠ .cancelled text

/-- What a failure is called where a text is needed: its wording, or else the name of its kind. -/
def label (e : Failure) : String := if e.message = "" then e.kind else e.message

end Failure

end Rollout
