import SqlTemplate.Rendering.Loop

/-! # Rendering templates

A node appends its text to the fragments. The result says whether it contributed anything.
-/

namespace SqlTemplate

/-- The name that stands for a parameter without properties in substituted text. -/
def scalarKey : String := "value"

/-- The text of a run with its substitutions. Null leaves no text. -/
def segmentsText (b : Bindings) : List Segment → Except EvalError String
  | [] => .ok ""
  | .text s :: segments => (segmentsText b segments).map (s ++ ·)
  | .expr e :: segments => do
    let v ← e.eval b
    let rest ← segmentsText b segments
    .ok ((if v.isNull then "" else v.text) ++ rest)

namespace Render

/-- Binds a parameter without properties under its name, unless that name is taken. -/
def bindScalar : Render Unit := modify fun c =>
  let parameter := c.bindings.parameter
  if Dict.contains c.bindings scalarKey then c
  else if parameter.isNull || parameter.isScalar then c.bind scalarKey parameter
  else c

def segments (parts : List Segment) : Render String := do
  bindScalar
  let c ← get
  MonadExcept.ofExcept ((segmentsText c.bindings parts).mapError Error.ofEval)

/-- Puts a clause around what the body writes. Nothing is written if nothing is left of it. -/
def clause (c : Clause) (body : Render Bool) : Render Bool := do
  let text ← capture body
  match c.wrap? text with
  | some s =>
    append s
    pure true
  | none => pure false

end Render

namespace Node

mutual

def render : Node → Render Bool
  | .text s => do
    Render.append s
    pure true
  | .substituted _ segments => do
    let s ← Render.segments segments
    Render.append s
    pure true
  | .sequence nodes => do
    renderAll nodes
    pure true
  | .conditional test body => do
    let t ← Render.evalTest test
    if t then
      let _ ← body.render
      pure true
    else pure false
  | .choose whens otherwise => do
    let found ← renderWhens whens
    if found then pure true else renderOtherwise otherwise
  | .clause _ c body => Render.clause c body.render
  | .loop l body => l.render body.render
  | .bind name e => do
    let v ← Render.eval? e
    Render.bind name (v.getD .null)
    pure true

def renderAll : List Node → Render Unit
  | [] => pure ()
  | n :: nodes => do
    let _ ← n.render
    renderAll nodes

/-- Renders the first branch whose test holds, and says whether there is one. -/
def renderWhens : List (Expr × Node) → Render Bool
  | [] => pure false
  | (test, body) :: whens => do
    let t ← Render.evalTest test
    if t then
      let _ ← body.render
      pure true
    else renderWhens whens

def renderOtherwise : Option Node → Render Bool
  | none => pure false
  | some body => do
    let _ ← body.render
    pure true

end

theorem render_text (s : String) : (Node.text s).render = (do
    Render.append s
    pure true) := by
  rw [render]

@[simp]
theorem renderAll_nil : renderAll [] = pure () := by rw [renderAll]

end Node

end SqlTemplate
