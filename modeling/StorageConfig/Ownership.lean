import StorageConfig.ConfigMap
import StorageConfig.Failure

/-! Passing the control of a resource from one owner to another. -/

namespace StorageConfig

/-- The reference as it stays once an owner takes over: a controller of another kind gives up its flags. -/
def OwnerRef.yieldTo (owner : Owner) (ref : OwnerRef) : OwnerRef :=
  if ref.isController && !ref.owner.sameKind owner then ref.released else ref

/-- The references as they stay once an owner takes over. -/
def handOff (owner : Owner) (refs : List OwnerRef) : List OwnerRef := refs.map (OwnerRef.yieldTo owner)

/-- The references with the controlling one of an owner, in place of the first to the same object. -/
def claimControl (owner : Owner) : List OwnerRef → List OwnerRef
  | [] => [.controlling owner]
  | ref :: refs =>
    if ref.owner.sameObject owner then .controlling owner :: refs else ref :: claimControl owner refs

namespace ConfigMap

/-- The resource with the given owner as its controller, unless another object is. -/
def setController (owner : Owner) (resource : ConfigMap) : Except Failure ConfigMap :=
  match resource.controller?.filter fun ref => !ref.owner.sameObject owner with
  | some rival =>
    .error (.alreadyOwned ("ConfigMap/" ++ resource.key.render) rival.owner.kind rival.owner.name)
  | none => .ok { resource with ownerRefs := claimControl owner resource.ownerRefs }

end ConfigMap

end StorageConfig
