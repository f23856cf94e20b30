import SqlTemplate.Engine
import SqlTemplate.Proofs.Conversion.Agreement

/-! # Compiling twice gives the same

Nothing that the engine does depends on which converters were looked up before.
-/

namespace SqlTemplate

open SqlTemplate.Computation

namespace Scope

variable {s : Scope}

theorem typeOf_steady (content : String) (p : Placeholder) (sqlType : Option SqlType) :
    Steady (s.typeOf content p sqlType) := by
  have hwhole (whole : Bool) : Steady (if whole then Pure.pure s.declared
      else MonadExcept.ofExcept (s.propertyType content p sqlType) : Extraction ValueType) := by
    split
    · exact .pure s.declared
    · exact .ofExcept _
  unfold typeOf
  dsimp only
  split
  · exact .pure _
  · split
    · exact .bind (.pure false) hwhole
    · exact .bind (.has s.declared) hwhole

theorem converterOf_steady (p : Placeholder) (t : ValueType) (sqlType : Option SqlType) :
    Steady (converterOf p t sqlType) := by
  unfold converterOf
  refine .get (fun r => ?_) fun r r' h s => ?_
  · split
    · split
      · exact .pure _
      · exact .throw _
    · split
      · exact .pure none
      · split
        · exact .bind (.converter? t sqlType) fun _ => .pure _
        · exact .throw _
  · cases p.option? "typeHandler" with
    | some name => simp only [h.resolve?, h.names]
    | none =>
      cases hk : r.knows t with
      | true => simp [← h.knows, hk]
      | false => simp [← h.knows, hk, h.candidates hk]

theorem mapping_steady (content : String) : Steady (s.mapping content) := by
  unfold mapping
  refine .bind (.ofExcept _) fun p => .bind (.ofExcept _) fun sqlType => .bind (typeOf_steady content p sqlType) fun found => ?_
  refine .bind (.ofExcept _) fun t => .bind (.ofExcept _) fun _ => .bind (.ofExcept _) fun _ => ?_
  exact .bind (converterOf_steady p t sqlType) fun _ => .pure _

theorem mappings_steady (contents : List String) : Steady (s.mappings contents) := by
  induction contents with
  | nil => exact .pure []
  | cons content contents ih => exact .bind (mapping_steady content) fun _ => .bind ih fun _ => .pure _

theorem extract_steady (style : MarkerStyle) (sql : String) : Steady (s.extract style sql) :=
  .bind (mappings_steady _) fun _ => .pure _

end Scope

namespace Engine

variable (e : Engine)

theorem compile_steady (element : Element) (type : ValueType) : Steady (e.compile element type) := by
  unfold compile
  refine .bind (.ofExcept _) fun _ => ?_
  split
  · exact .pure _
  · exact .bind (.ofExcept _) fun _ => .bind (Scope.extract_steady _ _) fun _ => .pure _

theorem bind_steady (source : Source) (parameter : Value) : Steady (e.bind source parameter) := by
  cases source with
  | fixed marked => exact .pure _
  | dynamic root type => exact .bind (.ofExcept _) fun _ => .bind (Scope.extract_steady _ _) fun _ => .pure _

end Engine

end SqlTemplate
