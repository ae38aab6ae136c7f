import SeriesGateway.Proofs.Json.Printed
import SeriesGateway.Service.Answer

namespace SeriesGateway

open Json

/-- A text is that of a series over a window: an object of exactly these members, in this order. -/
def IsSeriesText (text : List Char) (label : String) (start stop step : Int64)
    (items : List Raw) : Prop :=
  ∃ source, Raw.text? source = some label ∧
    Raw.ofText? text = some (.object
      [("label".toList, .string source), ("start".toList, .number (.ofInt start.toInt)),
        ("stop".toList, .number (.ofInt stop.toInt)), ("step".toList, .number (.ofInt step.toInt)),
        ("values".toList, .array items)])

namespace SeriesAnswer

theorem sampleText_eq (x : Binary64) : sampleText x = (Raw.ofReal x).text := by
  rw [Raw.text_ofReal]
  cases x <;> rfl

/-- The structure that a series is written as. -/
def raw (a : SeriesAnswer) : Raw :=
  .object (Raw.named
    [("label", (Value.string a.label).raw), ("start", (Value.integer a.start.toInt).raw),
      ("stop", (Value.integer a.stop.toInt).raw), ("step", (Value.integer a.step.toInt).raw),
      ("values", .array (a.values.map Raw.ofReal))])

theorem text_raw (a : SeriesAnswer) : a.raw.text = a.text := by
  rw [raw, Raw.text_object, text]
  simp only [List.map_cons, List.map_nil, Value.text_raw, Raw.text_array, List.map_map, Value.text]
  congr
  exact funext fun x => (sampleText_eq x).symm

theorem isProper_raw (a : SeriesAnswer) : a.raw.IsProper := by
  apply Raw.isProper_object
  simp only [List.forall_mem_cons, List.not_mem_nil, false_imp_iff, implies_true, and_true]
  refine ⟨Value.isProper_raw _, Value.isProper_raw _, Value.isProper_raw _, Value.isProper_raw _,
    Raw.isProper_array ?_⟩
  intro v hv
  obtain ⟨x, -, rfl⟩ := List.mem_map.1 hv
  exact Raw.isProper_ofReal x

/-- Every series is written as a JSON text of its window and its samples. -/
theorem isSeriesText_text (a : SeriesAnswer) :
    IsSeriesText a.text a.label a.start a.stop a.step (a.values.map Raw.ofReal) := by
  refine ⟨escaped a.label, Raw.text?_escaped a.label, ?_⟩
  rw [← text_raw, Raw.ofText?_text a.isProper_raw]
  rfl

end SeriesAnswer

namespace Failure

/-- A failure is read as an object that holds nothing but its wording. -/
theorem ofText?_answerBody (f : Failure) :
    Value.ofText? f.answerBody.text = some (.object [("error", .string f.message)]) := by
  have hname : Raw.text? (escaped "error") = some "error" := Raw.text?_escaped _
  have hmessage : Raw.text? (escaped f.message) = some f.message := Raw.text?_escaped _
  rw [Value.ofText?, Value.ofText?_text, Option.bind_some, answerBody]
  simp [Value.raw, Value.memberRaws, Raw.named, Raw.value?, Raw.members?, hname, hmessage,
    depthLimit, Ordered.ofList, Ordered.put]

end Failure

end SeriesGateway
