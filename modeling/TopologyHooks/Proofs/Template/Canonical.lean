import TopologyHooks.Proofs.Calendar.Timestamp
import TopologyHooks.Proofs.Shape.Canonical
import TopologyHooks.Proofs.Template.Decoding

/-!
# Templates in canonical form

* `ObjectMeta.times` — the points in time in metadata, the only parts of a template that are
  spelled out (`TemplateKind.legible_shape`).
* `ObjectRegistry.decode_toJson` — what is written for a template that was read is read as that
  template, and so is written in the same way again.
-/

set_option autoImplicit false

namespace TopologyHooks

attribute [local simp] Shape.Legible Fields.Legible

/-! ## Metadata -/

/-- The points in time in metadata. -/
def ObjectMeta.times (m : ObjectMeta) : List Timestamp :=
  m.creationTimestamp.toList ++ m.deletionTimestamp.toList ++
    (m.managedFields.getD []).filterMap ManagedFields.time

/-- A readable point in time is read from its spelling. -/
theorem Shape.legible_time {t : Timestamp} (h : t.Readable) : Shape.time.Legible t := by
  show (Timestamp.parse t.render).mapError Fault.notTimestamp = .ok t
  rw [Timestamp.parse_render h]
  rfl

/-- An entry of the history is legible if its point in time is readable, should it have one. -/
theorem ManagedFields.legible_shape {f : ManagedFields} (h : ∀ t ∈ f.time, t.Readable) :
    shape.Legible f := by
  simp [shape, Shape.lenient, Fields.optional]
  exact fun t ht => Shape.legible_time (h t ht)

/-- Every reference to an owner is legible: nothing in it is spelled out. -/
theorem OwnerReference.legible_shape (o : OwnerReference) : shape.Legible o := by
  simp [shape, Shape.lenient, word, Fields.optional, Fields.defaulted]

/-- Metadata are legible if their points in time are. -/
theorem ObjectMeta.legible_shape {m : ObjectMeta} (h : ∀ t ∈ m.times, t.Readable) :
    shape.Legible m := by
  simp [shape, Shape.lenient, Fields.optional, Shape.signed64, OwnerReference.legible_shape]
  refine ⟨fun t ht => ?_, fun t ht => ?_, fun fs hfs f hf => ?_⟩
  · exact Shape.legible_time (h t (by simp [times, ht]))
  · exact Shape.legible_time (h t (by simp [times, ht]))
  · refine ManagedFields.legible_shape fun t ht => h t ?_
    simpa [times, hfs] using .inr (.inr ⟨f, hf, ht⟩)

/-! ## Templates -/

namespace TemplateKind

/-- Nothing is spelled out in what a template specifies. -/
theorem legible_innerShape (k : TemplateKind) (b : k.Spec) : k.innerShape.Legible b := by
  cases k <;>
    simp [innerShape, KubeadmConfigSpec.controlPlaneShape, KubeadmConfigSpec.shape, Template.boxed,
      Kubeadm.ClusterConfiguration.shape, Kubeadm.EtcdConfiguration.shape,
      Kubeadm.LocalEtcd.shape, Kubeadm.ApiServer.shape, Kubeadm.File.shape, Kubeadm.User.shape,
      Docker.MachineSpec.shape, Docker.ClusterSpec.shape, Docker.LoadBalancer.shape,
      Aws.MachineSpec.shape, Aws.ClusterSpec.shape, Shape.struct, Fields.required,
      Fields.defaulted, Fields.optional, Fields.listed, Fields.worded, Fields.keyed]

/-- A template is written with the names with which it was read. -/
theorem sameNames_toJson {k : TemplateKind} {members : List (String × Json)} {t : k.Object}
    (h : k.shape.Reads (.obj members) t) (hback : k.shape.ReadsBack t) :
    (Json.obj members).SameNames (k.shape.toJson t) := by
  have hobj : k.shape.toJson t = _ := Shape.toJson_record ..
  rw [Shape.ReadsBack, hobj] at hback
  obtain ⟨hversion, hkind⟩ := names_of_reads h
  obtain ⟨hversion', hkind'⟩ := names_of_reads hback
  rw [hobj]
  exact ⟨hversion'.trans hversion.symm, hkind'.trans hkind.symm⟩

/-- A template is legible if the points in time in its metadata are. -/
theorem legible_shape {k : TemplateKind} {t : k.Object}
    (h : ∀ time ∈ t.metadata.times, time.Readable) : k.shape.Legible t := by
  simpa [shape, Template.shape, Template.specShape, Template.resourceShape, Template.boxed,
    Shape.struct, Fields.required, Fields.defaulted] using
    ⟨ObjectMeta.legible_shape h, k.legible_innerShape t.spec⟩

end TemplateKind

/-! ## Registries -/

namespace ObjectRegistry

/-- **What is written for a template is its canonical form.** Whatever object is read as a template
of a kind, the object that is written for it says that it is of the same version and kind, and is
read as the same template again, which is thus written in the same way. All points in time that were
read from texts with years of four digits are readable (`Timestamp.readable_of_parse`). -/
theorem decode_toJson {r : ObjectRegistry} {raw : Json} {o : TemplateObject}
    (hraw : raw.Ordered) (h : r.decode raw = .ok o)
    (htimes : ∀ t ∈ o.object.metadata.times, t.Readable) :
    r.decode o.toJson = .ok o ∧ raw.SameNames o.toJson := by
  obtain ⟨k, t⟩ := o
  obtain ⟨hcontains, hnames, hread⟩ := decode_eq_ok_iff.1 h
  have hback : k.shape.ReadsBack t :=
    k.shape.readsBack_of_reads k.regular_shape ⟨hraw, hread⟩ (TemplateKind.legible_shape htimes)
  have hsame : raw.SameNames (k.shape.toJson t) := by
    cases raw with
    | obj members => exact TemplateKind.sameNames_toJson ⟨hraw, hread⟩ hback
    | _ => cases hnames.1
  exact ⟨decode_eq_ok_iff.2 ⟨hcontains, hnames.congr hsame, hback.ofJson⟩, hsame⟩

namespace Canonical

/-- A cluster on Docker with an unknown field, a null, records that are given as arrays, and a
point in time with a fraction and an offset. -/
def raw : Json := .obj
  [("apiVersion", .str "infrastructure.cluster.x-k8s.io/v1beta1"),
   ("extra", .bool true),
   ("kind", .str "DockerClusterTemplate"),
   ("metadata", .obj
     [("creationTimestamp", .str "2024-01-01T00:30:00.5+01:00"), ("labels", .null)]),
   ("spec", .arr [.obj [("spec", .obj [("loadBalancer", .arr [.str "haproxy", .null])])]])]

/-- What is written for that cluster. -/
def written : Json := .obj
  [("apiVersion", .str "infrastructure.cluster.x-k8s.io/v1beta1"),
   ("kind", .str "DockerClusterTemplate"),
   ("metadata", .obj [("creationTimestamp", .str "2023-12-31T23:30:00Z")]),
   ("spec", .obj [("template", .obj
     [("spec", .obj [("loadBalancer", .obj [("imageRepository", .str "haproxy")])])])])]

/-- The cluster itself. -/
def cluster : TemplateObject where
  kind := .dockerCluster
  object := {
    apiVersion := "infrastructure.cluster.x-k8s.io/v1beta1"
    kind := "DockerClusterTemplate"
    metadata := { ObjectMeta.blank with
      creationTimestamp := some
        ⟨⟨2023, 12, 31, by decide⟩, 23, 30, 0, by decide⟩ }
    spec := ⟨some ⟨some "haproxy", none⟩⟩ }

end Canonical

/-- The cluster is read, is written in its canonical form, and is read from that again. -/
theorem decode_toJson_docker : full.decode Canonical.raw = .ok Canonical.cluster ∧
    Canonical.cluster.toJson = Canonical.written ∧
    full.decode Canonical.written = .ok Canonical.cluster ∧
    Canonical.raw.SameNames Canonical.written := by
  have hread : full.decode Canonical.raw = .ok Canonical.cluster := by rfl
  have hwritten : Canonical.cluster.toJson = Canonical.written := by rfl
  have htimes : ∀ t ∈ Canonical.cluster.object.metadata.times, t.Readable := by decide
  have hback := decode_toJson (by decide +kernel) hread htimes
  rw [hwritten] at hback
  exact ⟨hread, hwritten, hback⟩

end ObjectRegistry

end TopologyHooks
