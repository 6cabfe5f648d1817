import TopologyHooks.Template.Metadata

/-!
# Templates

A `Template σ` is an object that others are made from: its version and kind, its metadata, and
what the objects made from it shall be, of type `σ`. That stands under `spec.template.spec`, and
each level may be missing.
-/

set_option autoImplicit false

namespace TopologyHooks

/-- A template for objects described by `σ`. -/
structure Template (σ : Type) where
  apiVersion : String
  kind : String
  metadata : ObjectMeta
  spec : σ

namespace Template

variable {σ : Type}

/-- An object with a single member, which may be missing. -/
def boxed (title key : String) (absent : σ) (inner : Shape σ) : Shape σ :=
  .struct title (.defaulted key absent inner .done) (fun (a, _) => a) (fun a => (a, ()))

/-- What stands under `spec.template`. -/
def resourceShape (title : String) (absent : σ) (inner : Shape σ) : Shape σ :=
  boxed (title ++ "Resource") "spec" absent inner

/-- What stands under `spec`. -/
def specShape (title : String) (absent : σ) (inner : Shape σ) : Shape σ :=
  boxed (title ++ "Spec") "template" absent (resourceShape title absent inner)

/-- How a template is written. -/
def shape (title : String) (absent : σ) (inner : Shape σ) : Shape (Template σ) :=
  .struct title
    (.required "apiVersion" .text <|
     .required "kind" .text <|
     .defaulted "metadata" .blank ObjectMeta.shape <|
     .defaulted "spec" absent (specShape title absent inner) .done)
    (fun (version, kind, metadata, spec, _) => ⟨version, kind, metadata, spec⟩)
    (fun t => (t.apiVersion, t.kind, t.metadata, t.spec, ()))

/-- The same template with its specification changed. -/
def modifySpec (t : Template σ) (change : σ → σ) : Template σ :=
  { t with spec := change t.spec }

end Template

end TopologyHooks
