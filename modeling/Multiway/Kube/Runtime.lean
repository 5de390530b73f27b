import Multiway.Kube.Core

/-!
# What a watch enqueues (`kube::runtime::Controller`)

A controller declares to kube's runtime what it reconciles and what else is to
be watched for it, and the runtime turns events into keys of objects to
reconcile. The runtime is a library, so it is a parameter (`Runtime`) here, of
which only the documented behaviour is known (`Runtime.Documented`). What it
goes by is metadata.
-/

namespace Multiway.Kube

inductive Kind
  | gatewayClass | gateway | httproute | service | configmap | deployment | secret
  | referenceGrant | node
deriving DecidableEq

instance : Resource ObjectMeta := ⟨id⟩

/-- A change to one object: its metadata before, if it was there, and after. -/
structure WatchEvent where
  kind : Kind
  old : Option ObjectMeta
  new : Option ObjectMeta

/-- What a watch of the selected objects shows of a change: the object as it
is, or as it was when it leaves the selection. -/
def WatchEvent.seen (event : WatchEvent) (selected : ObjectMeta → Bool) : Option ObjectMeta :=
  (event.new.filter selected).or (event.old.filter selected)

/-- A label selector `label=value`. -/
def hasLabel (label value : String) (metadata : ObjectMeta) : Bool :=
  metadata.labels.bind (fun labels => labels[label]?) == some value

/-- `Api::namespaced` for one namespace, `Api::all` for none given. -/
def watchesNamespace (watchNamespace : Option String) (ns : String) : Bool :=
  watchNamespace.all (· == ns)

/-- The owners of an object that are of a kind, in the namespace of the object. -/
def ownersOf (apiVersion kind : String) (metadata : ObjectMeta) : List (String × String) :=
  ((metadata.ownerReferences.getD []).filter fun owner =>
    owner.apiVersion == apiVersion && owner.kind == kind).map
      fun owner => (namespaceOf metadata, owner.name)

/-- What a controller declares. -/
inductive Declaration
  /-- `Controller::new`: the objects to reconcile. -/
  | primary (kind : Kind) (watchNamespace : Option String)
  /-- `owns`, with a label selector: for the owners of the kind given. -/
  | owns (kind : Kind) (label value : String) (apiVersion ownerKind : String)
  /-- `watches`, with a mapper. -/
  | watches (kind : Kind) (mapper : ObjectMeta → List (String × String))

/-- The kind of object that is watched. -/
def Declaration.kind : Declaration → Kind
  | .primary kind _ => kind
  | .owns kind _ _ _ _ => kind
  | .watches kind _ => kind

/-- What an event enqueues by a declaration. An object that is gone is not
reconciled any more, but others may be for it. -/
def Declaration.enqueues (event : WatchEvent) (declaration : Declaration) :
    List (String × String) :=
  if event.kind = declaration.kind then
    match declaration with
    | .primary _ watchNamespace =>
      ((event.new.filter fun metadata => watchesNamespace watchNamespace (namespaceOf metadata)).map
        objectKey).toList
    | .owns _ label value apiVersion ownerKind =>
      (event.seen (hasLabel label value)).toList.flatMap (ownersOf apiVersion ownerKind)
    | .watches _ mapper => (event.seen fun _ => true).toList.flatMap mapper
  else []

theorem Declaration.kind_eq_of_mem {event : WatchEvent} {declaration : Declaration}
    {key : String × String} (h : key ∈ declaration.enqueues event) :
    declaration.kind = event.kind := by
  by_contra hne
  unfold enqueues at h
  rw [if_neg (Ne.symm hne)] at h
  cases h

structure Runtime where
  /-- The keys an event puts into the queue of the controller. -/
  enqueued : Declaration → WatchEvent → List (String × String)

/-- The runtime enqueues what it is documented to, in some order. -/
def Runtime.Documented (runtime : Runtime) : Prop :=
  ∀ declaration event key,
    key ∈ runtime.enqueued declaration event ↔ key ∈ declaration.enqueues event

/-- A runtime that does as documented. -/
def documentedRuntime : Runtime where
  enqueued declaration event := declaration.enqueues event

theorem documented_documentedRuntime : documentedRuntime.Documented := fun _ _ _ => Iff.rfl

end Multiway.Kube
