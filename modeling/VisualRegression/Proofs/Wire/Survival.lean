import VisualRegression.Proofs.Wire.Faithful
import VisualRegression.Wire.Policy

/-!
# Settings and locators survive the wire

Whatever form a policy, a configuration, parameters, locators or regions come in, what is read out
of it is read again from what is written of it.  The forms are many: objects with fields missing or
too many, arrays in place of objects, a locator as an array, a set in any order and with
repetitions; the writer uses one of them.  Main statement: `survives_wire`.
-/

namespace VisualRegression

namespace Json

variable {α : Type} {proper : α → Prop} {encode : α → Json} {decode : Json → Option α}
  {name : String} {members : List (String × Json)} {default a : α}

/-- **Values survive the wire**: what is written of a proper value is read back, and what was read
in any form is read again from what is written of it. -/
structure Survives (proper : α → Prop) (encode : α → Json) (decode : Json → Option α) : Prop where
  written_plain (a : α) : proper a → (encode a).Plain
  read_written (a : α) : proper a → decode (encode a) = some a
  read_again (j : Json) (a : α) : j.Plain → decode j = some a → decode (encode a) = some a

theorem Faithful.survives (hf : Faithful proper encode decode) : Survives proper encode decode where
  written_plain _ ha := hf.plain ha
  read_written _ ha := hf.decode_encode ha
  read_again _ _ hj h := hf.decode_encode (hf.proper_of_decode hj h)

/-- **Sets are read** out of arrays of their members: a set lists each of them once, one strictly
after the other, whatever their order and number in the array. -/
def ReadsSets [Ord α] (decode : Json → Option α)
    (decodeSet : Json → Option (OrderedSet α)) : Prop :=
  ∀ j s, decodeSet j = some s ↔ ∃ items l, j = array items ∧ items.mapM decode = some l ∧
    s.toList.Pairwise (fun a b => compare a b = .lt) ∧ s.toList.Nodup ∧ ∀ a, a ∈ s.toList ↔ a ∈ l

/-- **The value that members give** under a name: what is read there, and the default if there is no
such member. -/
def Gives (members : List (String × Json)) (name : String) (decode : Json → Option α)
    (default a : α) : Prop :=
  match lookup name members with
  | some j => decode j = some a
  | none => a = default

theorem orDefault?_lookup :
    orDefault? default decode (lookup name members) = some a ↔
      Gives members name decode default a := by
  unfold Gives
  cases lookup name members with
  | none => exact Option.some_inj.trans eq_comm
  | some j => exact Iff.rfl

end Json

open Json (FaithfulToAll Faithful Survives ReadsSets Gives)

/-! ## Colours, rectangles and locators -/

theorem Rgb.faithful : FaithfulToAll Rgb.toJson Rgb.ofJson? :=
  .ofAll (fun c => by simp [toJson])
    fun c => by simp [toJson, ofJson?, Json.toList?, Json.toUInt8?_ofNat]

theorem Pixel.faithful : FaithfulToAll Pixel.toJson Pixel.ofJson? :=
  .ofAll (fun p => by simp [toJson, Json.ofList])
    fun p => by simp [toJson, ofJson?, channels, Json.ofList, Json.toList?, Json.toUInt8?_ofNat]

theorem Rect.plain_toJson (r : Rect) : r.toJson.Plain := by simp [toJson]

theorem Rect.faithful : FaithfulToAll Rect.toJson Rect.ofJson? :=
  .ofAll plain_toJson ofJson?_toJson

theorem Locator.faithful : FaithfulToAll Locator.toJson Locator.ofJson? :=
  .ofAll (fun l => by cases l <;> simp [toJson, Rect.plain_toJson]) ofJson?_toJson

theorem Locator.faithful_set : FaithfulToAll Locator.setToJson Locator.setOfJson? :=
  Locator.faithful.set

theorem LocatorMap.faithful : FaithfulToAll LocatorMap.toJson LocatorMap.ofJson? :=
  PerKind.faithful Locator.faithful_set

theorem IgnoreMap.faithful : FaithfulToAll IgnoreMap.toJson IgnoreMap.ofJson? :=
  PerKind.faithful Rect.faithful.set

/-! ## Capture parameters -/

namespace CaptureParameters

/-- The parameters hold a finite number. -/
def Finite (p : CaptureParameters) : Prop := p.ratio.isFinite = true

theorem faithful : Faithful Finite toJson ofJson? where
  plain _ := by simp [toJson]
  decode_encode {p} h := by
    have hratio := Json.faithful_float.decode_encode h
    simp [ofJson?, toJson, Json.fields?, Json.lookup, Json.required?, hratio,
      Rect.toUInt32?_ofNat, Json.toString?]
  proper_of_decode {j p} hj h := by
    obtain ⟨fields, hfields, h⟩ := Option.bind_eq_some_iff.1 h
    split at h
    · obtain ⟨ratio, hratio, h⟩ := Option.bind_eq_some_iff.1 h
      simp only [Option.bind_eq_bind, Option.bind_eq_some_iff] at h
      obtain ⟨_, -, _, -, _, -, ⟨⟩⟩ := h
      exact Json.faithful_float.proper_of_required
        (fun value hvalue => hj.field hfields (by simp [hvalue])) hratio
    · cases h

end CaptureParameters

/-! ## Policies -/

namespace Policy

/-- The policy holds a finite number. -/
def Finite (p : Policy) : Prop := p.ratio.isFinite = true

/-- **The policy that members give**: each field on its own is what its member says, or the default
of the field. -/
structure GivenBy (members : List (String × Json)) (p : Policy) : Prop where
  ratio : Gives members "device_pixel_ratio" Json.toFloat? 1 p.ratio
  headerCut : Gives members "header_cut" Json.toUInt32? 0 p.headerCut
  footerCut : Gives members "footer_cut" Json.toUInt32? 0 p.footerCut
  strategy : Gives members "strategy" Json.toString? "viewport" p.strategy
  tolerance : Gives members "pixel_tolerance" Json.toUInt8? 0 p.tolerance
  diffColor : Gives members "diff_color" Rgb.ofJson? ⟨238, 111, 238⟩ p.diffColor
  maskColor : Gives members "mask_color" Pixel.ofJson? ⟨0, 0, 0, 255⟩ p.maskColor
  debugSnapshots : Gives members "debug_snapshots" Json.toBool? false p.debugSnapshots
  baselineDir : Gives members "baseline_dir" Json.toString? "./baselines" p.baselineDir

theorem ofJson?_object {members : List (String × Json)} {p : Policy} :
    ofJson? (.object members) = some p ↔ p.GivenBy members := by
  simp only [ofJson?, Json.fields?, fieldNames, List.map_cons, List.map_nil, Option.bind_eq_bind,
    Option.bind_some, Option.bind_eq_some_iff, Json.orDefault?_lookup]
  constructor
  · rintro ⟨_, h₁, _, h₂, _, h₃, _, h₄, _, h₅, _, h₆, _, h₇, _, h₈, _, h₉, ⟨⟩⟩
    exact ⟨h₁, h₂, h₃, h₄, h₅, h₆, h₇, h₈, h₉⟩
  · rintro ⟨h₁, h₂, h₃, h₄, h₅, h₆, h₇, h₈, h₉⟩
    exact ⟨_, h₁, _, h₂, _, h₃, _, h₄, _, h₅, _, h₆, _, h₇, _, h₈, _, h₉, rfl⟩

theorem faithful : Faithful Finite toJson ofJson? where
  plain _ := by simp [toJson, Rgb.faithful.plain, Pixel.faithful.plain]
  decode_encode {p} h := by
    have hratio := Json.faithful_float.decode_encode h
    refine ofJson?_object.2 ?_
    constructor <;>
      simp [Gives, Json.lookup, hratio, Rect.toUInt32?_ofNat, Json.toUInt8?_ofNat, Json.toString?,
        Json.toBool?, Rgb.faithful.decode_encode, Pixel.faithful.decode_encode]
  proper_of_decode {j p} hj h := by
    obtain ⟨fields, hfields, h⟩ := Option.bind_eq_some_iff.1 h
    split at h
    · obtain ⟨ratio, hratio, h⟩ := Option.bind_eq_some_iff.1 h
      simp only [Option.bind_eq_bind, Option.bind_eq_some_iff] at h
      obtain ⟨_, -, _, -, _, -, _, -, _, -, _, -, _, -, _, -, ⟨⟩⟩ := h
      exact Json.faithful_float.proper_of_orDefault rfl
        (fun value hvalue => hj.field hfields (by simp [hvalue])) hratio
    · cases h

end Policy

/-! ## Configurations -/

namespace CaptureConfiguration

/-- The configuration holds a finite number, if any. -/
def Finite (c : CaptureConfiguration) : Prop := ∀ x, c.ratio = some x → x.isFinite = true

/-- **The configuration that members give**: each field on its own is what its member says; where
there is no such member, the field is not set, and no locators are given. -/
structure GivenBy (members : List (String × Json)) (c : CaptureConfiguration) : Prop where
  ratio : Gives members "device_pixel_ratio" (Json.toOption? Json.toFloat?) none c.ratio
  headerCut : Gives members "header_cut" (Json.toOption? Json.toUInt32?) none c.headerCut
  footerCut : Gives members "footer_cut" (Json.toOption? Json.toUInt32?) none c.footerCut
  strategy : Gives members "strategy" (Json.toOption? Json.toString?) none c.strategy
  elementIgnores : Gives members "element_ignores" Locator.setOfJson? ∅ c.elementIgnores
  areaIgnores : Gives members "area_ignores" Locator.setOfJson? ∅ c.areaIgnores

theorem ofJson?_object {members : List (String × Json)} {c : CaptureConfiguration} :
    ofJson? (.object members) = some c ↔ c.GivenBy members := by
  simp only [ofJson?, Json.fields?, List.map_cons, List.map_nil, Option.bind_eq_bind,
    Option.bind_some, Option.bind_eq_some_iff, Json.optional?_eq_orDefault?,
    Json.orDefault?_lookup]
  constructor
  · rintro ⟨_, h₁, _, h₂, _, h₃, _, h₄, _, h₅, _, h₆, ⟨⟩⟩
    exact ⟨h₁, h₂, h₃, h₄, h₅, h₆⟩
  · rintro ⟨h₁, h₂, h₃, h₄, h₅, h₆⟩
    exact ⟨_, h₁, _, h₂, _, h₃, _, h₄, _, h₅, _, h₆, rfl⟩

/-- An optional ratio is written and read. -/
theorem faithful_ratio : Faithful (fun o : Option Float => ∀ x, o = some x → x.isFinite = true)
    (.ofOption .ofFloat) (Json.toOption? Json.toFloat?) :=
  Json.faithful_float.option fun x hx => by
    rw [Json.ofFloat, if_pos hx]
    exact Json.noConfusion

theorem faithful_cut : FaithfulToAll (.ofOption fun n : UInt32 => .ofNat n.toNat)
    (Json.toOption? Json.toUInt32?) :=
  Json.faithful_uint32.option nofun

theorem faithful_strategy : FaithfulToAll (.ofOption .string) (Json.toOption? Json.toString?) :=
  Json.faithful_string.option nofun

theorem faithful : Faithful Finite toJson ofJson? where
  plain {c} h := by
    simp [toJson, faithful_ratio.plain h, faithful_cut.plain, faithful_strategy.plain,
      Locator.faithful_set.plain]
  decode_encode {c} h := by
    refine ofJson?_object.2 ?_
    constructor <;>
      simp [Gives, Json.lookup, faithful_ratio.decode_encode h, faithful_cut.decode_encode,
        faithful_strategy.decode_encode, Locator.faithful_set.decode_encode]
  proper_of_decode {j c} hj h := by
    obtain ⟨fields, hfields, h⟩ := Option.bind_eq_some_iff.1 h
    split at h
    · obtain ⟨ratio, hratio, h⟩ := Option.bind_eq_some_iff.1 h
      simp only [Option.bind_eq_bind, Option.bind_eq_some_iff] at h
      obtain ⟨_, -, _, -, _, -, _, -, _, -, ⟨⟩⟩ := h
      rw [Json.optional?_eq_orDefault?] at hratio
      exact faithful_ratio.proper_of_orDefault (fun _ hx => by cases hx)
        (fun value hvalue => hj.field hfields (by simp [hvalue])) hratio
    · cases h

end CaptureConfiguration

/-! ## The whole wire -/

/-- **Settings and locators survive the wire**, in whatever form they come: each type on its own,
the sets in their order and without repetitions, and the fields missing from a policy or a
configuration with their defaults, whichever others are there. -/
theorem survives_wire :
    (Survives Policy.Finite Policy.toJson Policy.ofJson? ∧
      Survives CaptureConfiguration.Finite CaptureConfiguration.toJson
        CaptureConfiguration.ofJson? ∧
      Survives CaptureParameters.Finite CaptureParameters.toJson CaptureParameters.ofJson? ∧
      Survives (fun _ => True) Locator.toJson Locator.ofJson? ∧
      Survives (fun _ => True) Locator.setToJson Locator.setOfJson? ∧
      Survives (fun _ => True) LocatorMap.toJson LocatorMap.ofJson? ∧
      Survives (fun _ => True) IgnoreMap.toJson IgnoreMap.ofJson? ∧
      Survives (fun _ => True) Rect.toJson Rect.ofJson?) ∧
    (ReadsSets Locator.ofJson? Locator.setOfJson? ∧
      ReadsSets Rect.ofJson? (Json.toSet? Rect.ofJson?)) ∧
    (∀ members p, Policy.ofJson? (.object members) = some p ↔ p.GivenBy members) ∧
    ∀ members c, CaptureConfiguration.ofJson? (.object members) = some c ↔ c.GivenBy members :=
  ⟨⟨Policy.faithful.survives, CaptureConfiguration.faithful.survives,
      CaptureParameters.faithful.survives, Locator.faithful.survives,
      Locator.faithful_set.survives, LocatorMap.faithful.survives, IgnoreMap.faithful.survives,
      Rect.faithful.survives⟩,
    ⟨fun _ _ => Json.toSet?_eq_some_iff, fun _ _ => Json.toSet?_eq_some_iff⟩,
    fun _ _ => Policy.ofJson?_object, fun _ _ => CaptureConfiguration.ofJson?_object⟩

namespace CaptureConfiguration

/-- Members out of order, of which one is unknown and one is `null`, with a whole number as the
ratio and with locators in both forms, out of order and one of them twice. -/
def looseMembers : List (String × Json) :=
  [("element_ignores", .array
      [.object [("value", .string "//b"), ("type", .string "xpath")],
        .array [.string "css", .string "a"], .array [.string "xpath", .string "//b"]]),
    ("unknown", .bool true), ("header_cut", .null), ("device_pixel_ratio", .int 2)]

theorem survives_wire_loose :
    ∃ c, ofJson? (.object looseMembers) = some c ∧ c.GivenBy looseMembers ∧
      c.elementIgnores.toList = [.css "a", .xpath "//b"] ∧ c.areaIgnores.toList = [] ∧
        c.footerCut = none ∧ ofJson? c.toJson = some c := by
  obtain ⟨⟨-, hsurvives, -⟩, -, -, hgiven⟩ := survives_wire
  have hplain : (Json.object looseMembers).Plain := by
    simp [looseMembers, Json.Plain.int]
  have hread : ∃ c, ofJson? (.object looseMembers) = some c ∧
      c.elementIgnores.toList = [.css "a", .xpath "//b"] ∧ c.areaIgnores.toList = [] ∧
        c.footerCut = none := ⟨_, rfl, rfl, rfl, rfl⟩
  obtain ⟨c, hc, hlocators⟩ := hread
  exact ⟨c, hc, (hgiven _ c).1 hc, hlocators.1, hlocators.2.1, hlocators.2.2,
    hsurvives.read_again _ c hplain hc⟩

end CaptureConfiguration

end VisualRegression
