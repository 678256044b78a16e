import VisualRegression.Proofs.Instant
import VisualRegression.Proofs.Json.Sorted
import VisualRegression.Proofs.Wire.Survival
import VisualRegression.Run.Attachment

/-!
# Reports in files

A report that is written to a file is read back from the bytes there: `reportOf?_reportText`.  All
of its fields come back as they were, but for the percentage: that comes back as the double that its
text stands for.
-/

namespace VisualRegression

/-! ## Bytes -/

namespace Text

theorem toList_loop (bytes : ByteArray) (i : Nat) (acc : List UInt8) :
    ByteArray.toList.loop bytes i acc = acc.reverse ++ bytes.data.toList.drop i := by
  induction i, acc using ByteArray.toList.loop.induct bytes with
  | case1 i acc hlt ih =>
    have hi : i < bytes.data.toList.length := hlt
    have hget : bytes.get! i = bytes.data.toList[i] := by
      rw [Array.getElem_toList]
      exact getElem!_pos bytes.data i hlt
    rw [ByteArray.toList.loop, if_pos hlt, ih, List.drop_eq_getElem_cons hi, hget,
      List.reverse_cons, List.append_assoc]
    rfl
  | case2 i acc hge =>
    have hlength : bytes.data.toList.length ≤ i := Nat.le_of_not_lt hge
    rw [ByteArray.toList.loop, if_neg hge, List.drop_eq_nil_of_le hlength, List.append_nil]

/-- The text that bytes stand for. -/
def ofBytes? (bytes : List UInt8) : Option String := String.fromUTF8? ⟨bytes.toArray⟩

/-- A text is read back from its bytes. -/
theorem ofBytes?_toUTF8 (text : String) : ofBytes? text.toUTF8.toList = some text := by
  have hbytes : (⟨text.toUTF8.toList.toArray⟩ : ByteArray) = text.toByteArray := by
    rw [ByteArray.toList, toList_loop]
    rfl
  unfold ofBytes? String.fromUTF8?
  rw [hbytes]
  exact dif_pos text.isValidUTF8

end Text

/-! ## Fields -/

namespace Report

open Json

/-- An optional field is read as it was written. -/
theorem toOption?_asRead {α : Type} (encode : α → Json) {decode : Json → Option α}
    (h : ∀ a, decode (encode a).asRead = some a) (hnull : ∀ a, (encode a).asRead ≠ null)
    (o : Option α) : toOption? decode (ofOption encode o).asRead = some o := by
  cases o with
  | none => rfl
  | some a =>
    show toOption? decode (encode a).asRead = _
    rw [toOption?_of_ne_null (hnull a), h, Option.map_some]

theorem toInt32?_asRead (n : Int32) : toInt32? (int n.toInt).asRead = some n :=
  Rect.toInt32?_int n

theorem toUInt32?_asRead (n : UInt32) : toUInt32? (ofNat n.toNat).asRead = some n :=
  Rect.toUInt32?_ofNat n

/-- A rectangle is read as it was written. -/
theorem ofJson?_rect (r : Rect) : Rect.ofJson? r.toJson.asRead = some r := by
  unfold Rect.ofJson? Rect.toJson
  rw [fields?_asRead]
  simp [lookup, required?, toInt32?_asRead, toUInt32?_asRead]

theorem ofJson?_action (a : Action) : Action.ofJson? a.toJson.asRead = some a :=
  Action.ofName?_name a

/-- The report as it is read: its percentage is the one that is written. -/
def asRead (r : Report) : Report := { r with diffPercentage := reread r.diffPercentage }

/-- The fields of a report, in the order in which they are read. -/
theorem fields?_toJson (r : Report) : r.toJson.asRead.fields? fieldNames false =
    some [some (string r.checkId), some (string r.baselineName), some r.action.toJson.asRead,
      some (bool r.baselineFound), some (ofFloat r.diffPercentage).asRead,
      some (ofOption bool r.passed).asRead, some (ofOption bool r.verdict).asRead,
      some (ofOption string r.failure).asRead, some (ofOption Rect.toJson r.changedRegion).asRead,
      some (string r.checkedAt.text), some (string r.checkpointPng),
      some (ofOption string r.diffPng).asRead, some (ofOption string r.baselinePng).asRead] := by
  rw [toJson, fields?_asRead]
  have hstring (s : String) : (string s).asRead = string s := rfl
  have hbool : (bool r.baselineFound).asRead = bool r.baselineFound := rfl
  simp [fieldNames, lookup, hstring, hbool]

/-- **A report is read back from its fields**, whatever their order. -/
theorem ofJson?_toJson {r : Report} (htime : r.checkedAt.Proper)
    (hfinite : r.diffPercentage.isFinite = true) : ofJson? r.toJson.asRead = some r.asRead := by
  have hpercentage : toFloat? (ofFloat r.diffPercentage).asRead =
      some (reread r.diffPercentage) := by
    rw [ofFloat, if_pos hfinite]
    rfl
  have hbool (o : Option Bool) : toOption? toBool? (ofOption bool o).asRead = some o :=
    toOption?_asRead bool (fun _ => rfl) (fun _ h => (by cases h)) o
  have hstring (o : Option String) : toOption? toString? (ofOption string o).asRead = some o :=
    toOption?_asRead string (fun _ => rfl) (fun _ h => (by cases h)) o
  have hregion (o : Option Rect) :
      toOption? Rect.ofJson? (ofOption Rect.toJson o).asRead = some o :=
    toOption?_asRead Rect.toJson ofJson?_rect (fun _ h => (by cases h)) o
  have hchecked : Instant.read? r.checkedAt.text = some r.checkedAt := Instant.read?_text htime
  unfold ofJson?
  rw [fields?_toJson]
  dsimp only [Option.bind_eq_bind, Option.bind_some, required?, optional?, toString?, toBool?]
  rw [ofJson?_action, hpercentage, hbool, hbool, hstring, hregion, hchecked, hstring, hstring]
  rfl

/-- A report can stand in a text. -/
theorem plain_toJson (r : Report) : r.toJson.Plain := by
  have hoption {α : Type} {encode : α → Json} (h : ∀ a, (encode a).Plain) (o : Option α) :
      (ofOption encode o).Plain := by
    cases o with
    | none => exact .null
    | some a => exact h a
  simp [toJson, Action.toJson, hoption, Rect.plain_toJson]

end Report

/-! ## Files -/

namespace AttachmentFiles

/-- The report that the bytes of a file are the text of. -/
def reportOf? (bytes : List UInt8) : Option Report := do
  let text ← Text.ofBytes? bytes
  let j ← Json.read? text
  let result ← j.get? "result"
  Report.ofJson? result

/-- **A report is read back from its file.** -/
theorem reportOf?_reportText {r : Report} (htime : r.checkedAt.Proper)
    (hfinite : r.diffPercentage.isFinite = true) :
    reportOf? (reportText r).toUTF8.toList = some r.asRead := by
  have hplain : (reportValue r).Plain := by simp [reportValue, Report.plain_toJson]
  have hresult : (reportValue r).asRead.get? "result" = some r.toJson.asRead := by
    rw [reportValue, Json.get?_asRead]
    simp [Json.lookup]
  unfold reportOf? reportText
  rw [Text.ofBytes?_toUTF8]
  dsimp only [Option.bind_eq_bind, Option.bind_some]
  rw [Json.read?_pretty_sorted hplain]
  dsimp only [Option.bind_some]
  rw [hresult]
  dsimp only [Option.bind_some]
  exact Report.ofJson?_toJson htime hfinite

end AttachmentFiles

end VisualRegression
