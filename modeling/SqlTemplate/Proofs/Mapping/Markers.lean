import Mathlib.Data.List.Forall2
import SqlTemplate.Proofs.Engine.Steady
import SqlTemplate.Proofs.Mapping.Extraction
import SqlTemplate.Proofs.Token.Pieces

/-! # Markers and mappings go together

The markers of a statement are numbered in the order of its placeholders, and each placeholder has the mapping that it would have
alone. Making the markers and the mappings apart is the same as making both in one pass over the text.
-/

namespace SqlTemplate

open SqlTemplate.Computation

/-! ## The text -/

/-- A text as it stands, and a token as the marker of its position among the tokens. -/
def MarkerStyle.write (style : MarkerStyle) (position : Nat) : Piece → String
  | .text s => s
  | .token _ => style.marker position

/-- The pieces with their markers, the tokens being counted from the first piece on. -/
def MarkerStyle.shown (style : MarkerStyle) (pieces : List Piece) : List String :=
  pieces.mapIdx fun i piece => style.write ((pieces.take (i + 1)).countP Piece.isToken) piece

namespace MarkerStyle

variable (style : MarkerStyle)

theorem markFrom_eq (n : Nat) (pieces : List Piece) :
    style.markFrom (n + 1) pieces =
      pieces.mapIdx fun i piece => style.write (n + (pieces.take (i + 1)).countP Piece.isToken) piece := by
  induction pieces generalizing n with
  | nil => rfl
  | cons piece pieces ih =>
    rw [List.mapIdx_cons]
    cases piece with
    | text s =>
      rw [markFrom, ih n]
      simp [Piece.isToken, write]
    | token content =>
      rw [markFrom, ih (n + 1)]
      simp [List.countP_cons, Piece.isToken, write, Nat.add_assoc, Nat.add_comm 1]

/-- Neighbouring texts may be joined before or after the tokens are marked. -/
theorem join_markFrom_mergeTexts (n : Nat) (pieces : List Piece) :
    String.join (style.markFrom n (Delimiters.mergeTexts pieces)) = String.join (style.markFrom n pieces) := by
  induction pieces generalizing n with
  | nil => rfl
  | cons piece pieces ih =>
    cases piece with
    | token content =>
      rw [Delimiters.mergeTexts, markFrom, markFrom, String.join_cons, String.join_cons, ih]
    | text s =>
      rw [markFrom, String.join_cons, ← ih n, Delimiters.mergeTexts]
      split
      · rename_i t more heq
        rw [heq, markFrom, markFrom, String.join_cons, String.join_cons, String.append_assoc]
      · rw [markFrom, String.join_cons]

theorem mark_eq (text : String) : style.mark text = String.join (style.shown (placeholder.split text)) := by
  rw [mark, ← join_markFrom_mergeTexts, style.markFrom_eq 0]
  simp [shown, Delimiters.split]

/-- Neither an escaped opening delimiter nor one that is never closed takes a number. -/
example : MarkerStyle.numbered.mark "a \\#\x7bb\x7d #\x7bc\\\x7dd\x7d #\x7be\x7d #\x7bf" = "a #\x7bb\x7d $1 $2 #\x7bf" := by
  decide +kernel

end MarkerStyle

/-! ## The mappings -/

namespace Scope

variable (s : Scope)

/-- Whether the placeholder alone has a mapping. -/
def Accepts (r : Registry) (content : String) : Prop := ∃ m, (run (s.mapping content) r).1 = .ok m

/-- Whether the first placeholder without a mapping is rejected with the error. -/
def Rejects (r : Registry) (contents : List String) (e : Error) : Prop :=
  ∃ before content after, contents = before ++ content :: after ∧ (∀ c ∈ before, s.Accepts r c) ∧
    (run (s.mapping content) r).1 = .error e

theorem run_mapping_congr {r r' : Registry} (h : r.Agrees r') (content : String) :
    (run (s.mapping content) r).1 = (run (s.mapping content) r').1 :=
  (mapping_steady content h).1

/-- What was looked up for one placeholder changes nothing for those after it. -/
theorem mappings_run (contents : List String) (r : Registry) :
    match (run (s.mappings contents) r).1 with
    | .ok ms => List.Forall₂ (fun content m => (run (s.mapping content) r).1 = .ok m) contents ms
    | .error e => s.Rejects r contents e := by
  induction contents generalizing r with
  | nil => exact .nil
  | cons content contents ih =>
    have hagrees := (mapping_steady (s := s) content (.refl r)).2
    rw [mappings, run_bind]
    rcases hm : run (s.mapping content) r with ⟨e | m, r'⟩
    · exact ⟨[], content, contents, rfl, by simp, by rw [hm]⟩
    · rw [hm] at hagrees
      have hrest := ih r'
      dsimp only
      rw [run_bind]
      rcases hms : run (s.mappings contents) r' with ⟨e | ms, r''⟩
      · rw [hms] at hrest
        obtain ⟨before, rejected, after, rfl, hbefore, herror⟩ := hrest
        refine ⟨content :: before, rejected, after, rfl, List.forall_mem_cons.2 ⟨⟨m, by rw [hm]⟩, ?_⟩, ?_⟩
        · intro c hc
          unfold Accepts
          rw [s.run_mapping_congr hagrees]
          exact hbefore c hc
        · rw [s.run_mapping_congr hagrees]
          exact herror
      · rw [hms] at hrest
        refine .cons (by rw [hm]) (hrest.imp fun c m hc => ?_)
        rw [s.run_mapping_congr hagrees]
        exact hc

/-! ## One pass -/

/-- Replaces a token by the next marker once its mapping is made. The mappings made so far are the state. -/
def markToken (style : MarkerStyle) (content : String) : StateT (List ParameterMapping) Extraction String := fun ms => do
  let m ← s.mapping content
  pure (style.marker (ms.length + 1), ms ++ [m])

theorem mapM_markToken (style : MarkerStyle) (pieces : List Piece) (ms : List ParameterMapping) :
    (pieces.mapM (Piece.handle (s.markToken style))).run ms = (do
      let more ← s.mappings (Piece.contents pieces)
      pure (style.markFrom (ms.length + 1) pieces, ms ++ more)) := by
  induction pieces generalizing ms with
  | nil => simp [Piece.contents, mappings, MarkerStyle.markFrom]
  | cons piece pieces ih =>
    rw [List.mapM_cons, StateT.run_bind]
    cases piece with
    | text t => simp [Piece.handle, ih, Piece.contents, List.filterMap_cons, Piece.content?, MarkerStyle.markFrom]
    | token content =>
      have hrun : (s.markToken style content).run ms = (do
          let m ← s.mapping content
          pure (style.marker (ms.length + 1), ms ++ [m])) := rfl
      simp [Piece.handle, hrun, ih, Piece.contents, Piece.content?, MarkerStyle.markFrom, mappings]

/-- Extraction is one scan of the text that numbers each placeholder by the mappings made before it. -/
theorem extract_eq_scan (style : MarkerStyle) (text : String) :
    s.extract style text = (do
      let (sql, ms) ← (placeholder.scan (s.markToken style) text).run []
      pure ⟨sql, ms⟩) := by
  rw [Delimiters.scan_eq, StateT.run_bind, mapM_markToken, extract, ← contents_split, Delimiters.split, contents_mergeTexts]
  simp [MarkerStyle.mark]

/-! ## Alignment -/

/-- The markers are those of the pieces of the text, and the mappings are those of its tokens in the same order. An error is that of the
first token without a mapping. -/
theorem extract_markers (style : MarkerStyle) (text : String) (r : Registry) :
    match (run (s.extract style text) r).1 with
    | .ok marked =>
      marked.sql = String.join (style.shown (placeholder.split text)) ∧
      marked.mappings.length = (placeholder.split text).countP Piece.isToken ∧
      List.Forall₂ (fun content m => (run (s.mapping content) r).1 = .ok m ∧
          ∃ p, Placeholder.parse content = .ok p ∧ m.property = p.property)
        (Piece.contents (placeholder.split text)) marked.mappings
    | .error e => s.Rejects r (Piece.contents (placeholder.split text)) e := by
  have hrun := s.mappings_run (placeholder.tokens text) r
  rw [contents_split, extract, run_bind]
  rcases hms : run (s.mappings (placeholder.tokens text)) r with ⟨e | ms, r'⟩ <;> rw [hms] at hrun
  · exact hrun
  · refine ⟨style.mark_eq text, ?_, hrun.imp fun content m hm => ⟨hm, ?_⟩⟩
    · rw [← hrun.length_eq, ← contents_split, length_contents]
    · obtain ⟨p, hp, hproperty, -⟩ := mapping_ok (Prod.ext hm rfl)
      exact ⟨p, hp, hproperty⟩

end Scope

end SqlTemplate
