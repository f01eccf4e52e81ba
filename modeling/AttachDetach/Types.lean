import Mathlib.Logic.Function.Basic

/-!
# The AzVolumeAttachment resource

The custom resource the attach/detach controller reconciles, with the fields the controller
reads or writes: metadata (finalizers, labels, annotations, deletion timestamp), the
desired `Spec` and the observed `Status`.  Go maps (`map[string]string`) are functions
`String → Option String`: a `nil` map and an empty one read alike, and nothing in the
controller tells them apart.  Go slices of finalizers are lists, with the same
identification of `nil` and empty.

The resource types live in package `v1alpha1`, and the constants and helpers the
controller takes from packages `azureutils` and `util` (label keys, the finalizer name,
the record name, the error-code strings) are declared outside the controller file.  The
model takes the latter as the fields of one structure, `Env`, which assumes of them only
what the code relies on: the three label keys are distinct, and so are the two annotation
keys.
-/

namespace AttachDetach

/-- `v1alpha1.Role`: the role a record requests and the role it was attached in.
Modelled from the spec: the API package is not in the repository; the spec names the
two roles, Primary and Replica. -/
inductive Role
  | primary
  | replica
  deriving DecidableEq, Repr

/-- `string(role)`, the text stored under the role label. -/
def Role.toString : Role → String
  | .primary => "Primary"
  | .replica => "Replica"

/-- `v1alpha1.AzVolumeAttachmentAttachmentState`.  Modelled from the spec: the API
package is not in the repository; the spec lists these seven states. -/
inductive AzVolumeAttachmentAttachmentState
  | attachmentPending
  | attaching
  | attached
  | attachmentFailed
  | detaching
  | detached
  | detachmentFailed
  deriving DecidableEq, Repr

/-- A gRPC status code (`codes.Code`). -/
structure Code where
  value : Nat
  deriving DecidableEq, Repr

/-- `codes.Unknown`, what `status.Code` returns for an error that carries no status. -/
def Code.unknown : Code := ⟨2⟩

/-- `codes.FailedPrecondition`, the code of a rejected state transition. -/
def Code.failedPrecondition : Code := ⟨9⟩

/-- The Go `error` values the controller stores or passes on. -/
inductive GoError
  /-- A gRPC status error with its code and its `Error()` text.  Any other plain error is
  a status error of code `Unknown`, which is how `status.Code` reads it. -/
  | status (code : Code) (message : String)
  /-- `*volerr.DanglingAttachError`: the disk is still attached to `currentNode` at
  `devicePath`. -/
  | danglingAttach (currentNode devicePath message : String)
  deriving DecidableEq, Repr

/-- `status.Code(err)`. -/
def GoError.code : GoError → Code
  | .status code _ => code
  | .danglingAttach .. => Code.unknown

/-- `err.Error()`. -/
def GoError.error : GoError → String
  | .status _ message => message
  | .danglingAttach _ _ message => message

/-- `storagev1.VolumeAttachmentStatus`. -/
structure VolumeAttachmentStatus where
  attached : Bool
  attachError : Option String
  detachError : Option String
  deriving DecidableEq, Repr

/-- The declarations of packages `azureutils`, `util` and of the controller's other files
that the controller file uses.  None is in the repository, so they are parameters; the
only assumptions are the distinctness of the label keys and of the annotation keys. -/
structure Env where
  azVolumeAttachmentFinalizer : String
  nodeNameLabel : String
  volumeNameLabel : String
  roleLabel : String
  volumeAttachmentExistsAnnotation : String
  volumeDetachRequestAnnotation : String
  driverName : String
  danglingAttachErrorCode : String
  /-- `util.GetStringValueForErrorCode`. -/
  getStringValueForErrorCode : Code → String
  /-- `formatUpdateStateError("azVolume", from, to, expected...)`, the text of a rejected
  transition. -/
  formatUpdateStateError : AzVolumeAttachmentAttachmentState →
    AzVolumeAttachmentAttachmentState → List AzVolumeAttachmentAttachmentState → String
  /-- `azureutils.GetAzVolumeAttachmentName(diskName, nodeName)`. -/
  getAzVolumeAttachmentName : String → String → String
  /-- `azureutils.GetDiskNameFromAzureManagedDiskURI`; `none` is its error. -/
  getDiskNameFromAzureManagedDiskURI : String → Option String
  /-- `azureutils.GetAzVolumeAttachmentState`. -/
  getAzVolumeAttachmentState : VolumeAttachmentStatus → AzVolumeAttachmentAttachmentState
  /-- The bound on the passes of `Recover`. -/
  maxRetry : Nat
  nodeNameLabel_ne_volumeNameLabel : nodeNameLabel ≠ volumeNameLabel
  nodeNameLabel_ne_roleLabel : nodeNameLabel ≠ roleLabel
  volumeNameLabel_ne_roleLabel : volumeNameLabel ≠ roleLabel
  annotations_ne : volumeAttachmentExistsAnnotation ≠ volumeDetachRequestAnnotation

/-- One choice of the constants, for instantiating statements made of every choice. -/
instance : Inhabited Env :=
  ⟨{ azVolumeAttachmentFinalizer := "azvolumeattachment-finalizer"
     nodeNameLabel := "node-name"
     volumeNameLabel := "volume-name"
     roleLabel := "requested-role"
     volumeAttachmentExistsAnnotation := "volume-attachment"
     volumeDetachRequestAnnotation := "volume-detach-request"
     driverName := "disk.csi.azure.com"
     danglingAttachErrorCode := "DanglingAttach"
     getStringValueForErrorCode := fun code => toString code.value
     formatUpdateStateError := fun _ _ _ => "invalid state transition"
     getAzVolumeAttachmentName := fun diskName nodeName => diskName ++ "-" ++ nodeName
     getDiskNameFromAzureManagedDiskURI := some
     getAzVolumeAttachmentState := fun status =>
       if status.attached then .attached else .attachmentPending
     maxRetry := 3
     nodeNameLabel_ne_volumeNameLabel := by decide
     nodeNameLabel_ne_roleLabel := by decide
     volumeNameLabel_ne_roleLabel := by decide
     annotations_ne := by decide }⟩

/-- `v1alpha1.AzError`, the error block of the status. -/
structure AzError where
  errorCode : String
  errorMessage : String
  currentNode : String
  devicePath : String
  deriving DecidableEq, Repr

/-- `v1alpha1.AzVolumeAttachmentStatusDetail`, filled in once an attach succeeded. -/
structure AzVolumeAttachmentStatusDetail where
  role : Role
  publishContext : String → Option String

/-- `v1alpha1.AzVolumeAttachmentSpec`. -/
structure AzVolumeAttachmentSpec where
  underlyingVolume : String
  volumeID : String
  nodeName : String
  requestedRole : Role
  volumeContext : String → Option String

/-- `v1alpha1.AzVolumeAttachmentStatus`; `detail` and `error` are Go pointers. -/
structure AzVolumeAttachmentStatus where
  detail : Option AzVolumeAttachmentStatusDetail
  state : AzVolumeAttachmentAttachmentState
  error : Option AzError

/-- `v1alpha1.AzVolumeAttachment`, with the fields of its embedded `ObjectMeta` that the
controller uses. -/
structure AzVolumeAttachment where
  finalizers : List String
  labels : String → Option String
  annotations : String → Option String
  deletionTimestamp : Option Nat
  spec : AzVolumeAttachmentSpec
  status : AzVolumeAttachmentStatus

end AttachDetach
