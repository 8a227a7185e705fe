/-!
Templates and the registry of styles. A template is a Typst file that a document imports, by
its path, and whose entry function it applies to its body; a registry names templates by style
id and says which style is the default.
-/

namespace Typeset.Template

/-- A template: its style id, the path the document imports it from, and its entry function. -/
structure Definition where
  id : String
  path : String
  entry : String
  deriving BEq, Repr, Inhabited

/-- Templates by style id, and the style used when none or an unknown one is asked for. -/
structure Registry where
  templates : List Definition
  defaultStyle : String
  deriving BEq, Repr, Inhabited

namespace Registry

/-- The first template of a style. -/
def get? (r : Registry) (style : String) : Option Definition := r.templates.find? (·.id == style)

/-- Whether the registry has a template of a style. -/
def supports (r : Registry) (style : String) : Bool := (r.get? style).isSome

/-- The template for an optional style: that style's, else the default style's. -/
def resolve? (r : Registry) (style : Option String) : Option Definition :=
  match style.bind r.get? with
  | some t => some t
  | none => r.get? r.defaultStyle

/-- The import paths of all templates, in order. -/
def paths (r : Registry) : List String := r.templates.map (·.path)

end Registry

/-- A built-in article template: `styles/<id>.typ` with entry `article`. -/
def article (id : String) : Definition := ⟨id, "styles/" ++ id ++ ".typ", "article"⟩

/-- The default style id. -/
def defaultStyle : String := "modern-tech"

/-- The built-in registry: `modern-tech` and `classic-editorial`, `modern-tech` by default. -/
def builtIn : Registry := ⟨[article "modern-tech", article "classic-editorial"], defaultStyle⟩

/-- The template used when the registry resolves none. -/
def fallback : Definition := article defaultStyle

end Typeset.Template
