import ScanGate.Proofs.Json.Fields
import ScanGate.Proofs.Json.OneLine
import ScanGate.Proofs.Json.RoundTrip
import ScanGate.Waiver

/-! The text of a list of waivers is one line and reads back as the list: the same waivers
in the same order, whatever characters are in them and whichever fields are missing. -/
namespace ScanGate

namespace Waiver

theorem isWellFormed_toJson (w : Waiver) : w.toJson.IsWellFormed :=
  ⟨Json.isWellFormed_optionalText _, Json.isWellFormed_optionalText _,
    Json.isWellFormed_optionalText _, Json.isWellFormed_optionalText _, trivial⟩

theorem ofJson?_toJson (w : Waiver) : ofJson? w.toJson = some w := by
  have hf : w.toJson.fields ["cve", "lib", "vers", "hash"] =
      some [some (.optionalText w.cve), some (.optionalText w.library),
        some (.optionalText w.version), some (.optionalText w.fingerprint)] := by
    simp [toJson, Json.record, Json.fields, Json.occurrences, Json.member?]
  simp only [ofJson?, hf, Json.optional_optionalText, Option.bind_eq_bind, Option.bind_some]
  rfl

end Waiver

namespace WaiverList

theorem ofJson?_toJson (ws : WaiverList) : ofJson? ws.toJson = some ws := by
  have hf : ws.toJson.fields ["exceptions"] = some [some (.array (ws.map Waiver.toJson))] := by
    simp [toJson, Json.record, Json.fields, Json.occurrences, Json.member?]
  simp only [ofJson?, hf, Option.bind_eq_bind, Option.bind_some, Json.required]
  exact Json.list_map fun w _ => w.ofJson?_toJson

theorem isWellFormed_toJson (ws : WaiverList) : ws.toJson.IsWellFormed :=
  ⟨Json.isWellFormed_map fun w _ => w.isWellFormed_toJson, trivial⟩

theorem oneLine_text (ws : WaiverList) : Json.OneLine ws.text.toList :=
  Json.oneLine_compact _ ws.isWellFormed_toJson

theorem parse_of_spells {text : String} {ws : WaiverList} (h : Json.Spells text ws.toJson) :
    parse text = .ok ws := by
  rw [parse, ofText?, Json.read?_eq_some_iff.mpr h, Option.bind_some, ofJson?_toJson]

theorem parse_text (ws : WaiverList) : parse ws.text = .ok ws :=
  parse_of_spells (Json.spells_compact _ ws.isWellFormed_toJson)

/-- The text of every list is without control characters and reads as the list. A text
that somebody else wrote, with blanks, other members or another order of them, reads the
same once the list in it is written anew; one that is no list is refused as before. -/
theorem text_reads_back :
    (∀ ws : WaiverList,
      (∀ c ∈ ws.text.toList, ¬ c.toNat < 0x20) ∧ parse ws.text = .ok ws) ∧
    ∀ s, (do parse (← parse s).text) = parse s := by
  refine ⟨fun ws => ⟨ws.oneLine_text, ws.parse_text⟩, fun s => ?_⟩
  cases hs : parse s with
  | ok ws => exact ws.parse_text
  | error failure => rfl

end WaiverList

end ScanGate
