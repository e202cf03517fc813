import AirMonitor.Proofs.JsonReading
import AirMonitor.Proofs.SingleParts

/-!
A report is written in pieces into a buffer that may be too small for it. What comes out is the
whole text or nothing, and the text reads back as the sample it was made from.
-/

namespace AirMonitor

/-- The characters between the quotes of a JSON string. -/
inductive Json.Content : List Char → Prop where
  | nil : Content []
  | plain {c : Char} {cs : List Char} (hquote : c ≠ '"') (hslash : c ≠ '\\')
    (hcontrol : 0x20 ≤ c.toNat) (h : Content cs) : Content (c :: cs)
  | escaped {c : Char} {cs : List Char} (hc : (unescape? c).isSome) (h : Content cs) :
    Content ('\\' :: c :: cs)
  | unicode {a b c d : Char} {cs : List Char} (ha : (hexValue? a).isSome)
    (hb : (hexValue? b).isSome) (hc : (hexValue? c).isSome) (hd : (hexValue? d).isSome)
    (h : Content cs) : Content ('\\' :: 'u' :: a :: b :: c :: d :: cs)

/-- A number rounded to some decimal places, if it is finite; of two that are equally near it is
the one with an even last digit. -/
def Parts.rounded? (places : Nat) : Parts → Option Json.Number
  | .finite negative mantissa exponent => some {
      negative
      digits := ((Magnitude.scaled mantissa exponent).shift places).round
      places
      exponent := 0 }
  | _ => none

namespace Payload

theorem content_escape (c : Char) {cs : List Char} (h : Json.Content cs) :
    Json.Content (escape c ++ cs) := by
  fun_cases escape c with
  | case6 c hquote hslash hline hreturn htab hcontrol =>
    have hhigh := Json.hexValue?_hexDigit (c.toNat / 16) (by omega)
    have hlow := Json.hexValue?_hexDigit (c.toNat % 16) (by omega)
    exact .unicode rfl rfl (Option.isSome_of_eq_some hhigh) (Option.isSome_of_eq_some hlow) h
  | case7 c hquote hslash hline hreturn htab hcontrol =>
    exact .plain hquote hslash (Nat.le_of_not_lt hcontrol) h
  | _ => exact .escaped rfl h

theorem content_flatMap_escape (cs : List Char) : Json.Content (cs.flatMap escape) := by
  induction cs with
  | nil => exact .nil
  | cons c cs ih =>
    rw [List.flatMap_cons]
    exact content_escape c ih

theorem toList_join (pieces : List String) :
    (String.join pieces).toList = pieces.flatMap String.toList := by
  induction pieces with
  | nil => rw [String.join_nil]; rfl
  | cons piece pieces ih => rw [String.join_cons, String.toList_append, ih, List.flatMap_cons]

theorem join_pieces (sensorId : String) (sample : Sample) :
    String.join (pieces sensorId sample) = text sensorId sample := by
  have hsensorId : quoted "sensor_id" = "\"sensor_id\"" := rfl
  have htemperature : quoted "temperature" = "\"temperature\"" := rfl
  have hhumidity : quoted "humidity" = "\"humidity\"" := rfl
  have hparticulates : quoted "pm25" = "\"pm25\"" := rfl
  have hscore : quoted "tvoc" = "\"tvoc\"" := rfl
  have hco2 : quoted "co2" = "\"co2\"" := rfl
  apply String.toList_inj.1
  simp only [toList_join, pieces, text, members, hsensorId, htemperature, hhumidity, hparticulates,
    hscore, hco2, Json.toList_quoted, List.flatMap_append, List.flatMap_cons, List.flatMap_nil,
    List.flatMap_map, String.toList_ofList, List.map_cons, List.map_nil,
    String.intercalate_cons_cons, String.intercalate_singleton, String.toList_append,
    String.reduceToList, List.append_assoc, List.cons_append, List.nil_append]

theorem format?_eq (sensorId : String) (sample : Sample) : format? sensorId sample =
    if (text sensorId sample).utf8ByteSize ≤ capacity then some (text sensorId sample)
    else none := by
  rw [format?, BoundedText.text_pushAll?, join_pieces, String.empty_append]

theorem spells_fixedPlaces {x : Float32} {number : Json.Number}
    (h : (partsOf x).rounded? 2 = some number) :
    Json.Spells (fixedPlaces 2 x) (.number number) := by
  rw [fixedPlaces]
  cases hparts : partsOf x with
  | nan =>
    rw [hparts] at h
    cases h
  | infinite negative =>
    rw [hparts] at h
    cases h
  | finite negative mantissa exponent =>
    rw [hparts, Parts.rounded?, Option.some.injEq] at h
    subst h
    exact Json.spells_number fun rest hended => Json.number?_positional negative (by decide) hended

theorem spells_int (i : Int) :
    ∃ number : Json.Number, number.toInt? = some i ∧ Json.Spells (toString i) (.number number) :=
  ⟨_, Json.Number.toInt?_int i, Json.spells_number fun _ hended => Json.number?_int i hended⟩

/-- A finite number has a decimal that spells it. -/
theorem spells_of_finite {x : Float32} (h : x.isFinite = true) : ∃ number : Json.Number,
    (partsOf x).rounded? 2 = some number ∧ Json.Spells (fixedPlaces 2 x) (.number number) := by
  obtain ⟨mantissa, exponent, hparts⟩ := Single.partsOf_of_finite h
  have hrounded := congrArg (Parts.rounded? 2) hparts
  exact ⟨_, hrounded, spells_fixedPlaces hrounded⟩

/-- The members of a report, each with the value that its text is to spell. -/
def entries (sensorId : String) (sample : Sample)
    (temperature humidity particulates score co2 : Json.Number) : List Json.Entry :=
  [⟨"sensor_id", quoted sensorId, .string sensorId⟩,
    ⟨"temperature", fixedPlaces 2 sample.temperature, .number temperature⟩,
    ⟨"humidity", fixedPlaces 2 sample.humidity, .number humidity⟩,
    ⟨"pm25", fixedPlaces 2 sample.particulates, .number particulates⟩,
    ⟨"tvoc", fixedPlaces 2 sample.score, .number score⟩,
    ⟨"co2", toString sample.co2.toInt, .number co2⟩]

/-- Where the identifier stands in a report. -/
theorem toList_text (sensorId : String) (sample : Sample) : ∃ following,
    (text sensorId sample).toList =
      "\x7b\"sensor_id\":\"".toList ++ sensorId.toList.flatMap escape ++ '"' :: following := by
  have hsensorId : quoted "sensor_id" = "\"sensor_id\"" := rfl
  refine ⟨("," ++ String.intercalate "," ((members sensorId sample).tail.map fun member =>
    quoted member.1 ++ ":" ++ member.2) ++ "\x7d").toList, ?_⟩
  simp only [text, members, hsensorId, Json.toList_quoted, List.map_cons, List.tail_cons,
    String.intercalate_cons_cons, String.toList_append, String.reduceToList, List.append_assoc,
    List.cons_append, List.nil_append]

/-- A report comes out whole or not at all, depending on its size alone. Its text is a JSON object
of exactly these members, and what it was made from can be read back. -/
theorem format_faithful {sample : Sample} (htemperature : sample.temperature.isFinite = true)
    (hhumidity : sample.humidity.isFinite = true)
    (hparticulates : sample.particulates.isFinite = true) (hscore : sample.score.isFinite = true)
    (sensorId : String) :
    ((format? sensorId sample).isSome ↔ (text sensorId sample).utf8ByteSize ≤ 192) ∧
    (∀ report, format? sensorId sample = some report → report = text sensorId sample) ∧
    (∃ temperature humidity particulates score co2 : Json.Number,
      Json.read? (text sensorId sample) = some (.object [("sensor_id", .string sensorId),
        ("temperature", .number temperature), ("humidity", .number humidity),
        ("pm25", .number particulates), ("tvoc", .number score), ("co2", .number co2)]) ∧
      (partsOf sample.temperature).rounded? 2 = some temperature ∧
      (partsOf sample.humidity).rounded? 2 = some humidity ∧
      (partsOf sample.particulates).rounded? 2 = some particulates ∧
      (partsOf sample.score).rounded? 2 = some score ∧
      co2.toInt? = some sample.co2.toInt) ∧
    ∃ literal following,
      (text sensorId sample).toList =
        "\x7b\"sensor_id\":\"".toList ++ literal ++ '"' :: following ∧
      Json.Content literal ∧
      Json.string? (literal ++ '"' :: following) = some (sensorId, following) := by
  refine ⟨?_, ?_, ?_, ?_⟩
  · rw [format?_eq]
    split
    · next hsize => exact iff_of_true rfl hsize
    · next hsize => exact iff_of_false Bool.false_ne_true hsize
  · intro report hreport
    rw [format?_eq] at hreport
    split at hreport
    · exact (Option.some.inj hreport).symm
    · cases hreport
  · obtain ⟨temperature, ht, ht'⟩ := spells_of_finite htemperature
    obtain ⟨humidity, hh, hh'⟩ := spells_of_finite hhumidity
    obtain ⟨particulates, hp, hp'⟩ := spells_of_finite hparticulates
    obtain ⟨score, hs, hs'⟩ := spells_of_finite hscore
    obtain ⟨co2, hc, hc'⟩ := spells_int sample.co2.toInt
    have hspelled : ∀ entry ∈ entries sensorId sample temperature humidity particulates score co2,
        Json.Spells entry.text entry.value := by
      simp only [entries, List.forall_mem_cons]
      exact ⟨Json.spells_quoted sensorId, ht', hh', hp', hs', hc', List.forall_mem_nil _⟩
    have hread := Json.read?_object (List.cons_ne_nil _ _) hspelled
    exact ⟨temperature, humidity, particulates, score, co2, hread, ht, hh, hp, hs, hc⟩
  · obtain ⟨following, htext⟩ := toList_text sensorId sample
    exact ⟨_, following, htext, content_flatMap_escape _, Json.string?_escape sensorId following⟩

/-- Readings of either sign, among them quantities that are not available. -/
def escapedSample : Sample where
  temperature := -0.5
  humidity := 45.25
  pressure := 101325.0
  gas := 12345.0
  score := -1.0
  co2 := -1
  particulates := -1.0

theorem format_faithful_escaped :
    (escapedSample.temperature.isFinite = true ∧ escapedSample.humidity.isFinite = true ∧
      escapedSample.particulates.isFinite = true ∧ escapedSample.score.isFinite = true) ∧
    (format? "a\"\\\n" escapedSample).isSome ∧
    ∃ temperature humidity particulates score co2 : Json.Number,
      Json.read? (text "a\"\\\n" escapedSample) = some (.object [
        ("sensor_id", .string "a\"\\\n"),
        ("temperature", .number temperature), ("humidity", .number humidity),
        ("pm25", .number particulates), ("tvoc", .number score), ("co2", .number co2)]) ∧
      co2.toInt? = some (-1) := by
  have htemperature : escapedSample.temperature.isFinite = true := by decide +kernel
  have hhumidity : escapedSample.humidity.isFinite = true := by decide +kernel
  have hparticulates : escapedSample.particulates.isFinite = true := by decide +kernel
  have hscore : escapedSample.score.isFinite = true := by decide +kernel
  obtain ⟨hfits, -, ⟨temperature, humidity, particulates, score, co2, hread, -, -, -, -, hco2⟩,
      -⟩ := format_faithful htemperature hhumidity hparticulates hscore "a\"\\\n"
  exact ⟨⟨htemperature, hhumidity, hparticulates, hscore⟩, hfits.mpr (by decide +kernel),
    temperature, humidity, particulates, score, co2, hread, hco2⟩

end Payload

end AirMonitor
