/-
What a run that answers with a text prints: the planned calls, the names or the
description of a service as JSON, or the unit of a service.

With colors a text is printed as it is, with a line break behind it. Without them it
is printed as far as it is visible. JSON escapes every control character but the
delete character, so the latter is what a JSON text loses (`jsonLines_printed`):
names of registered services have none, other names and tags may. A text that lost
nothing is read as the value it was written from.
-/
import Retag.Proofs.Command.Outcome
import Retag.Proofs.Console.Visible
import Retag.Proofs.Plan.Calls
import Retag.Proofs.Service.Description

namespace Retag

open Json (Writable Undeleted)

/-! ## Calls -/

/-- The keys and the values of a set. -/
def TagSet.texts (s : TagSet) : List String := s.pairs.flatMap fun p => [p.1, p.2]

/-- The keys and values that a call sends. -/
def PlannedCall.texts : PlannedCall → List String
  | combined _ tags untagKeys => tags.texts ++ untagKeys
  | untag _ tags | tag _ tags => tags.texts

theorem TagSet.writable_toJson {d : Nat} (s : TagSet) : Writable (d + 1) s.toJson := by
  refine .object fun m hm => ?_
  obtain ⟨p, -, rfl⟩ := List.mem_map.1 hm
  exact .string

theorem TagSet.forall_mem_texts {P : String → Prop} {s : TagSet} :
    (∀ t ∈ s.texts, P t) ↔ ∀ p ∈ s.pairs, P p.1 ∧ P p.2 := by
  simp only [texts, List.mem_flatMap]
  refine ⟨fun h p hp => ⟨h p.1 ⟨p, hp, by simp⟩, h p.2 ⟨p, hp, by simp⟩⟩, ?_⟩
  rintro h t ⟨p, hp, ht⟩
  obtain rfl | rfl : t = p.1 ∨ t = p.2 := by simpa using ht
  · exact (h p hp).1
  · exact (h p hp).2

theorem TagSet.forall_texts_toJson {P : String → Prop} {s : TagSet} :
    (∀ t ∈ s.toJson.texts, P t) ↔ ∀ t ∈ s.texts, P t := by
  rw [toJson, Json.forall_texts_object, List.forall_mem_map, forall_mem_texts]
  simp only [Json.forall_texts_string]

theorem PlannedCall.writable_toJson {d : Nat} (c : PlannedCall) : Writable (d + 2) c.toJson := by
  cases c with
  | combined op tags keys =>
    have hkeys : Writable (d + 1) (.array (keys.map .string)) := .array fun v hv => by
      obtain ⟨k, -, rfl⟩ := List.mem_map.1 hv
      exact .string
    refine .object ?_
    simp only [List.forall_mem_cons, List.not_mem_nil, false_implies, implies_true, and_true]
    exact ⟨.string, .string, tags.writable_toJson, hkeys⟩
  | untag op tags | tag op tags =>
    refine .object ?_
    simp only [List.forall_mem_cons, List.not_mem_nil, false_implies, implies_true, and_true]
    exact ⟨.string, .string, tags.writable_toJson⟩

theorem PlannedCall.undeleted_toJson {c : PlannedCall} (hop : Undeleted c.operation) :
    (∀ t ∈ c.toJson.texts, Undeleted t) ↔ ∀ t ∈ c.texts, Undeleted t := by
  have hnames : ∀ name ∈ ["call", "operation", "tags", "untag_keys", "combined", "untag", "tag"], Undeleted name := by
    decide
  simp only [List.forall_mem_cons] at hnames
  obtain ⟨hcall, hoperation, htags, hkeys, hcombined, huntag, htag, -⟩ := hnames
  cases c with
  | combined op tags keys =>
    have hop : Undeleted op := hop
    simp only [toJson, texts, Json.forall_texts_object, List.forall_mem_cons, Json.forall_texts_string,
      Json.forall_texts_array, List.forall_mem_map, TagSet.forall_texts_toJson, List.forall_mem_append,
      hcall, hoperation, htags, hkeys, hcombined, hop, true_and]
    simp
  | untag op tags =>
    have hop : Undeleted op := hop
    simp only [toJson, texts, Json.forall_texts_object, List.forall_mem_cons, Json.forall_texts_string,
      TagSet.forall_texts_toJson, hcall, hoperation, htags, huntag, hop, true_and]
    simp
  | tag op tags =>
    have hop : Undeleted op := hop
    simp only [toJson, texts, Json.forall_texts_object, List.forall_mem_cons, Json.forall_texts_string,
      TagSet.forall_texts_toJson, hcall, hoperation, htags, htag, hop, true_and]
    simp

/-- Every call of a plan is one of the service's two operations. -/
theorem plan_operation {service : Service} {old new : TagSet} {calls : List PlannedCall}
    (hplan : plan service old new = .ok calls) :
    ∀ c ∈ calls, c.operation = service.tagOperation ∨ c.operation = service.untagOperation := by
  intro c hc
  cases hs : service.usesSingleEndpoint with
  | true =>
    rw [plan_combined hs] at hplan
    obtain rfl := Except.ok.inj hplan
    split at hc
    · cases hc
    · obtain rfl := List.mem_singleton.1 hc
      exact .inl rfl
  | false =>
    obtain ⟨untags, tags, huntags, htags, rfl⟩ := plan_separate_inv hs hplan
    obtain ⟨rfl, -⟩ := callsFor_inv huntags
    obtain ⟨rfl, -⟩ := callsFor_inv htags
    rcases List.mem_append.1 hc with hc | hc
    · obtain ⟨b, -, rfl⟩ := List.mem_map.1 hc
      exact .inr rfl
    · obtain ⟨b, -, rfl⟩ := List.mem_map.1 hc
      exact .inl rfl

/-- In the calls of a plan, delete characters are only in what is sent. -/
theorem plan_undeleted {name : String} {old new : TagSet} {calls : List PlannedCall}
    (hplan : plan (Service.resolve name) old new = .ok calls) :
    (∀ s ∈ (Json.array (calls.map (·.toJson))).texts, Undeleted s) ↔ ∀ c ∈ calls, ∀ s ∈ c.texts, Undeleted s := by
  obtain ⟨htag, huntag⟩ := undeleted_operations name
  have hop : ∀ c ∈ calls, Undeleted c.operation := by
    intro c hc
    rcases plan_operation hplan c hc with h | h
    · rwa [h]
    · rwa [h]
  rw [Json.forall_texts_array, List.forall_mem_map]
  exact forall₂_congr fun c hc => PlannedCall.undeleted_toJson (hop c hc)

/-! ## Lines of JSON -/

namespace Console

/-- Among printable characters only the delete character is not shown. -/
theorem shows_of_printable {c : Char} (h : Json.Printable c) : Mode.text.shows c = (c != '\x7f') := by
  obtain (rfl | rfl | rfl | rfl) | hspace := h
  · rfl
  · rfl
  · rfl
  · rfl
  · by_cases hc : c = '\x7f'
    · subst hc
      rfl
    · simp [Mode.shows, hspace, hc]

theorem escape_not_printable : ¬ Json.Printable '\x1b' := by decide

theorem written_single (color : Bool) (line : Line) : written color [line] = line.written color := by
  simp [written, String.join]

end Console

namespace Command

open Console (Line Mode)
open Files (Interruption)

/-- How the text of a value is printed as a line: as it is with colors, and without
its delete characters otherwise. `clean` says when there are none. A text that is
printed as it is reads as the value. -/
structure Printed (color : Bool) (v : Json) (clean : Prop) (output : String) : Prop where
  colored : color = true → output = v.pretty ++ "\n"
  uncolored : color = false → output = String.ofList (v.pretty.toList.filter (· != '\x7f')) ++ "\n"
  whole : output = v.pretty ++ "\n" ↔ color = true ∨ clean
  reads : output = v.pretty ++ "\n" → Json.parse output = .ok v.ordered

theorem pretty_printable {d : Nat} {v : Json} (h : Writable d v) : ∀ c ∈ v.pretty.toList, Json.Printable c := by
  rw [Json.pretty, String.toList_ofList, ← Json.chars_pretty]
  exact Json.chars_printable h 0

theorem pretty_undeleted {d : Nat} {v : Json} (h : Writable d v) :
    '\x7f' ∉ v.pretty.toList ↔ ∀ s ∈ v.texts, Undeleted s := by
  rw [Json.pretty, String.toList_ofList, ← Json.chars_pretty]
  exact Json.delete_not_mem_chars h 0

/-- The line of a value loses its delete characters where there are no colors, and
nothing else. -/
theorem jsonLines_printed {v : Json} (h : Writable Json.nestingLimit v) {clean : Prop}
    (hclean : (∀ s ∈ v.texts, Undeleted s) ↔ clean) (color : Bool) :
    Printed color v clean (Console.written color (jsonLines v)) := by
  have hprintable := pretty_printable h
  have hescape : '\x1b' ∉ v.pretty.toList := fun hmem => Console.escape_not_printable (hprintable _ hmem)
  have hshown : (∀ c ∈ v.pretty.toList, Mode.text.shows c = true) ↔ '\x7f' ∉ v.pretty.toList := by
    refine ⟨fun hall hmem => ?_, fun hnone c hc => ?_⟩
    · have hdelete := hall _ hmem
      cases hdelete
    · rw [Console.shows_of_printable (hprintable c hc), bne_iff_ne]
      rintro rfl
      exact hnone hc
  have hline : Console.written color (jsonLines v) = (Line.plain v.pretty).written color := Console.written_single ..
  rw [hline]
  refine ⟨?_, ?_, ?_, fun hwhole => ?_⟩
  · rintro rfl
    exact Line.written_plain_color _
  · rintro rfl
    rw [Line.written_plain_text hescape,
      List.filter_congr fun c hc => Console.shows_of_printable (hprintable c hc)]
  · rw [Line.written_plain_iff, hshown, pretty_undeleted h, hclean]
  · rw [hwhole]
    exact Json.parse_pretty h

/-! ## Runs -/

theorem names_undeleted : ∀ name ∈ Registry.registeredSorted, Undeleted name := by
  have hregistered : ∀ name ∈ Registry.registered, Undeleted name := by decide +kernel
  exact fun name hname => hregistered name (List.mem_mergeSort.1 hname)

/-- A run that succeeds prints the lines of its command. -/
theorem run_lines {w : World} {args : List String} {i : Interruption} {command : Retag.Command} {verbosity : Nat}
    (hread : read w.environment args = .ok ⟨command, verbosity⟩) (hcode : (run w args i).exitCode = 0) :
    ∃ lines, (w.perform w.settings i command).result = .ok lines ∧
      (run w args i).output = Console.written w.color lines := by
  have hrun : run w args i = Invocation.run w i ⟨command, verbosity⟩ := by rw [run, hread]
  rw [hrun] at hcode ⊢
  obtain ⟨-, ⟨f, -, hfailed, -⟩ | ⟨lines, hlines, -, houtput⟩⟩ := invocation_run w i ⟨command, verbosity⟩
  · exact absurd hcode hfailed
  · exact ⟨lines, hlines, houtput⟩

/-- What a plan shows as JSON. -/
theorem showPlan_json {w : World} {name old new : String} {lines : List Line}
    (h : (w.showPlan name old new true).result = .ok lines) :
    ∃ oldTags newTags calls, (readTags .old old).2 = .ok oldTags ∧ (readTags .new new).2 = .ok newTags ∧
      Retag.plan (Service.resolve name) oldTags newTags = .ok calls ∧
      lines = jsonLines (.array (calls.map (·.toJson))) := by
  unfold World.showPlan at h
  split at h
  next => cases h
  next oldEvents oldTags hold =>
    split at h
    next => cases h
    next newEvents newTags hnew =>
      simp only at h
      split at h
      next => cases h
      next calls hplan =>
        obtain rfl := Except.ok.inj h
        exact ⟨oldTags, newTags, calls, by rw [hold], by rw [hnew], hplan, rfl⟩

/-- What is shown of a unit: its text without the blanks at its end. -/
theorem showUnit_lines {w : World} {name : String} {templatePath : Option String} {lines : List Line}
    (h : (w.showUnit name templatePath).result = .ok lines) :
    ∃ template source unit, (w.template templatePath).2 = .ok template ∧
      SourceUnit.render template [Service.resolve name] = .ok source ∧ SourceUnit.format source = .ok unit ∧
      lines = [Line.plain (String.ofList (Text.trimEnd unit.toList))] := by
  unfold World.showUnit at h
  cases htemplate : (w.template templatePath).2 with
  | error f =>
    simp only [htemplate] at h
    cases h
  | ok template =>
    cases hsource : SourceUnit.render template [Service.resolve name] with
    | error f =>
      simp only [htemplate, Bind.bind, Except.bind, hsource] at h
      cases h
    | ok source =>
      cases hunit : SourceUnit.format source with
      | error f =>
        simp only [htemplate, Bind.bind, Except.bind, hsource, hunit] at h
        cases h
      | ok unit =>
        simp only [htemplate, Bind.bind, Except.bind, hsource, hunit] at h
        obtain rfl := Except.ok.inj h
        exact ⟨template, source, unit, rfl, hsource, hunit, rfl⟩

theorem writable_names (names : List String) : Writable Json.nestingLimit (.array (names.map .string)) := by
  refine .array fun v hv => ?_
  obtain ⟨name, -, rfl⟩ := List.mem_map.1 hv
  exact .string

theorem writable_calls (calls : List PlannedCall) : Writable Json.nestingLimit (.array (calls.map (·.toJson))) := by
  refine .array fun v hv => ?_
  obtain ⟨c, -, rfl⟩ := List.mem_map.1 hv
  exact c.writable_toJson

/-- **What a run prints.** A plan as JSON is printed whole unless there are no colors
and a key or a value that is sent has a delete character, the description of a
service unless its name has one, the names of the services always, and a unit unless
one of its characters is not shown. What is printed whole reads as what was planned
or described, in order. -/
theorem run_printed (w : World) (args : List String) (i : Interruption) :
    let o := run w args i
    (∀ name old new verbosity, read w.environment args = .ok ⟨.plan name old new true, verbosity⟩ → o.exitCode = 0 →
      ∃ oldTags newTags calls, (readTags .old old).2 = .ok oldTags ∧ (readTags .new new).2 = .ok newTags ∧
        Retag.plan (Service.resolve name) oldTags newTags = .ok calls ∧
        Printed w.color (.array (calls.map (·.toJson))) (∀ c ∈ calls, ∀ s ∈ c.texts, Undeleted s) o.output) ∧
    (∀ verbosity, read w.environment args = .ok ⟨.services none true, verbosity⟩ → o.exitCode = 0 →
      Printed w.color (.array (Registry.registeredSorted.map .string)) True o.output) ∧
    (∀ name verbosity, read w.environment args = .ok ⟨.services (some name) true, verbosity⟩ → o.exitCode = 0 →
      Printed w.color (Service.resolve name).toJson (Undeleted name) o.output) ∧
    (∀ name path verbosity, read w.environment args = .ok ⟨.render name path, verbosity⟩ → o.exitCode = 0 →
      ∃ template source unit, (w.template (w.templatePath path)).2 = .ok template ∧
        SourceUnit.render template [Service.resolve name] = .ok source ∧ SourceUnit.format source = .ok unit ∧
        let text := String.ofList (Text.trimEnd unit.toList)
        (o.output = text ++ "\n" ↔ w.color = true ∨ ∀ c ∈ text.toList, Mode.text.shows c = true)) := by
  intro o
  refine ⟨?_, ?_, ?_, ?_⟩
  · intro name old new verbosity hread hcode
    obtain ⟨lines, hlines, houtput⟩ := run_lines hread hcode
    obtain ⟨oldTags, newTags, calls, hold, hnew, hplan, rfl⟩ := showPlan_json hlines
    refine ⟨oldTags, newTags, calls, hold, hnew, hplan, ?_⟩
    rw [houtput]
    exact jsonLines_printed (writable_calls calls) (plan_undeleted hplan) w.color
  · intro verbosity hread hcode
    obtain ⟨lines, hlines, houtput⟩ := run_lines hread hcode
    obtain rfl := Except.ok.inj hlines
    rw [houtput]
    refine jsonLines_printed (writable_names _) ?_ w.color
    rw [Json.forall_texts_array, List.forall_mem_map, iff_true]
    exact fun name hname => Json.forall_texts_string.2 (names_undeleted name hname)
  · intro name verbosity hread hcode
    obtain ⟨lines, hlines, houtput⟩ := run_lines hread hcode
    obtain rfl := Except.ok.inj hlines
    rw [houtput]
    exact jsonLines_printed (Service.writable_toJson (resolve_batch_small name)) resolve_undeleted w.color
  · intro name path verbosity hread hcode
    obtain ⟨lines, hlines, houtput⟩ := run_lines hread hcode
    obtain ⟨template, source, unit, htemplate, hsource, hunit, rfl⟩ := showUnit_lines hlines
    refine ⟨template, source, unit, htemplate, hsource, hunit, ?_⟩
    rw [houtput, Console.written_single]
    exact Line.written_plain_iff w.color _

/-- A place with no files and no environment, and with colors or without. -/
def bareWorld (color : Bool) : World := ⟨.empty, [], [], color⟩

/-- A plan that sets a tag whose key has a delete character, with colors. -/
theorem run_printed_colored :
    let args := ["plan", "sqs", "--new", "\x7b\"a\\u007f\": \"1\"\x7d", "--json"]
    let o := run (bareWorld true) args
    (read [] args = .ok ⟨.plan "sqs" noTags "\x7b\"a\\u007f\": \"1\"\x7d" true, 0⟩ ∧ o.exitCode = 0) ∧
      ∃ calls : List PlannedCall, o.output = (Json.array (calls.map (·.toJson))).pretty ++ "\n" ∧
        Json.parse o.output = .ok (Json.array (calls.map (·.toJson))).ordered := by
  intro args o
  have hread : read [] args = .ok ⟨.plan "sqs" noTags "\x7b\"a\\u007f\": \"1\"\x7d" true, 0⟩ := by decide +kernel
  have hcode : o.exitCode = 0 := by decide +kernel
  obtain ⟨-, -, calls, -, -, -, hprinted⟩ := (run_printed (bareWorld true) args _).1 _ _ _ _ hread hcode
  have hwhole := hprinted.colored rfl
  exact ⟨⟨hread, hcode⟩, calls, hwhole, hprinted.reads hwhole⟩

/-- Without colors the delete character is lost, and what is printed reads as the plan
for another key. -/
theorem plan_prints_less :
    let o := run (bareWorld false) ["plan", "sqs", "--new", "\x7b\"a\\u007f\": \"1\"\x7d", "--json"]
    let planned (key : String) : Json := .array [(PlannedCall.tag "TagQueue" (TagSet.ofList [(key, "1")])).toJson]
    Retag.plan (Service.resolve "sqs") TagSet.empty (TagSet.ofList [("a\x7f", "1")]) =
        .ok [.tag "TagQueue" (TagSet.ofList [("a\x7f", "1")])] ∧
      o.exitCode = 0 ∧ o.output ≠ (planned "a\x7f").pretty ++ "\n" ∧
      o.output = (planned "a").pretty ++ "\n" ∧ Json.parse o.output = .ok (planned "a").ordered := by
  intro o planned
  have houtput : o.output = (planned "a").pretty ++ "\n" := by decide +kernel
  refine ⟨by decide +kernel, by decide +kernel, ?_, houtput, ?_⟩
  · rw [houtput]
    decide +kernel
  · rw [houtput]
    exact Json.parse_pretty (writable_calls [.tag "TagQueue" (TagSet.ofList [("a", "1")])])

end Command

end Retag
