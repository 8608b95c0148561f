import Mathlib.Data.List.Nodup
import Peg.Grammar.Combinator
import Peg.Proofs.Anchored
import Peg.Proofs.Fuel

/-!
What a pattern contributes.

A pattern matches where its regular expression does. If it gives its groups, these make an
object: every group stands under its name, or under its number if no group has a name, and a
group that took no part in the match is null.
-/
namespace Peg

open Eval

section Evaluation

variable {σ : Type} {s : State σ} {e : Element} {regex : Regex} {capture : Capture}

theorem Engine.pattern_eq (e : Element) (regex : Regex) (capture : Capture) (s : State σ) :
    let found := regex.matchFrom s.scanner.skippedCursor
    Engine.pattern e regex capture s = .ok (found.map fun m => .one (capture.value m)) { s with
      scanner := s.scanner.reset (found.elim s.scanner.cursor (·.stop))
      furthest := found.elim (if 0 < s.quiet then s.furthest
        else s.furthest.record s.scanner.skippedCursor fun _ => e.label) fun _ => s.furthest } := by
  intro found
  have hget : (get : Eval σ _) s = .ok s s := rfl
  have hscan : s.scanner.scanRegex? regex = found.map fun m => (m, s.scanner.reset m.stop) := rfl
  rw [Engine.pattern, bind_of_ok hget, hscan]
  cases found with
  | some m => rfl
  | none => exact bind_of_ok record_eq

/-- With room and fuel, a pattern comes to the match at the skipped cursor, if there is one. -/
theorem eval_pattern (en : Engine σ) (room : Nat) (hkind : e.kind = .pattern regex capture)
    (hfuel : s.fuel ≠ 0) {found : Option Regex.Match}
    (hfound : regex.matchFrom s.scanner.skippedCursor = found) :
    ∃ trace, en.eval (room + 1) e s =
      .ok (found.map fun m => (Contribution.one (capture.value m)).decorate e.decor) { s with
        scanner := s.scanner.reset (found.elim s.scanner.cursor (·.stop))
        fuel := s.fuel - 1
        furthest := found.elim (if 0 < s.quiet then s.furthest
          else s.furthest.record s.scanner.skippedCursor fun _ => e.label) fun _ => s.furthest
        trace := trace } := by
  have hpattern := Engine.pattern_eq e regex capture (s.opened en.tracer e)
  have hsame : (s.opened en.tracer e).scanner.skippedCursor = s.scanner.skippedCursor := rfl
  rw [hsame, hfound] at hpattern
  rw [eval_of_fuel en e room hfuel, Engine.evalKind, hkind]
  refine Exists.imp (fun trace htrace => (bind_of_ok hpattern).trans htrace) ?_
  cases found with
  | some m => exact ⟨_, rfl⟩
  | none => exact ⟨_, rfl⟩

end Evaluation

/-- A number is told by its digits. -/
theorem toString_injective : Function.Injective (toString : Nat → String) := by
  intro i j h
  have hdigits : Nat.toDigits 10 i = Nat.toDigits 10 j := by
    simpa using congrArg String.toList h
  have hvalue := congrArg (Nat.ofDigitChars 10 · 0) hdigits
  simpa using hvalue

/-- The value of a group: its text, or null if it took no part in the match. -/
def groupValue (group : Option String) : Value :=
  group.elim .null .text

theorem Value.field?_of_mem {fields : List (String × Value)} {name : String} {v : Value}
    (hnames : (fields.map (·.1)).Nodup) (hmem : (name, v) ∈ fields) :
    (object fields).field? name = some v := by
  have hfind : fields.find? (·.1 == name) = some (name, v) := by
    induction fields with
    | nil => cases hmem
    | cons first rest ih =>
      obtain ⟨hfirst, hrest⟩ := List.nodup_cons.mp hnames
      rcases List.mem_cons.mp hmem with rfl | hmem
      · simp
      · have hne : first.1 ≠ name := by
          rintro rfl
          exact hfirst (List.mem_map.mpr ⟨_, hmem, rfl⟩)
        rw [List.find?_cons_of_neg (by simpa using hne)]
        exact ih hrest hmem
  rw [field?, hfind]
  rfl

namespace Regex

/-- What the fields of an object tell of a match of `r`. -/
structure Tells (r : Regex) (m : Match) (fields : List (String × Value)) : Prop where
  nodup : (fields.map (·.1)).Nodup
  /-- If there are named groups, they are told in the order of their names, and no others are. -/
  names : r.hasNamedGroups = true → fields.map (·.1) = r.names.filterMap id
  named (name : String) : r.hasNamedGroups = true → some name ∈ r.names →
    (Value.object fields).field? name = some (groupValue (m.named? name))
  /-- If there are none, all groups but the whole match are told, in the order of their
  numbers. -/
  numbers : r.hasNamedGroups = false →
    fields.map (·.1) = (List.range' 1 (r.groupCount - 1)).map toString
  numbered (i : Nat) : r.hasNamedGroups = false → 1 ≤ i → i < r.groupCount →
    (Value.object fields).field? (toString i) = some (groupValue (m.group? i))

section

variable {r : Regex} {c : Cursor} {m : Match}

/-- The named groups of a match have the names of the pattern, in their order. -/
theorem map_fst_named (h : r.matchFrom c = some m) :
    m.named.map (·.1) = r.names.filterMap id := by
  have hlength : m.names.length ≤ m.positional.length := by
    rw [m.length_positional, matchFrom_length h, matchFrom_names h]
  calc m.named.map (·.1)
    _ = (m.names.zip m.positional).filterMap (·.1) := by
      rw [Match.named, List.map_filterMap]
      congr 1
      funext ⟨name, text⟩
      cases name <;> rfl
    _ = ((m.names.zip m.positional).map (·.1)).filterMap id := by
      rw [List.filterMap_map]
      rfl
    _ = r.names.filterMap id := by rw [List.map_fst_zip hlength, matchFrom_names h]

theorem isEmpty_named (h : r.matchFrom c = some m) : m.named.isEmpty = !r.hasNamedGroups := by
  have hnames : m.named.isEmpty = (r.names.filterMap id).isEmpty := by
    rw [← map_fst_named h, List.isEmpty_map]
  rw [hnames, hasNamedGroups, Bool.eq_iff_iff]
  simp [List.isEmpty_iff, List.filterMap_eq_nil_iff]

/-- A named group has the text that is found under its name. -/
theorem named?_of_mem_named (h : r.matchFrom c = some m) {name : String} {text : Option String}
    (hmem : (name, text) ∈ m.named) : m.named? name = text := by
  obtain ⟨⟨name', text'⟩, hzip, hgroup⟩ := List.mem_filterMap.mp hmem
  obtain ⟨_, rfl, heq⟩ := Option.map_eq_some_iff.mp hgroup
  cases heq
  -- The name and the text stand at the same place of the two lists.
  obtain ⟨i, hi⟩ := List.mem_iff_getElem?.mp hzip
  obtain ⟨hname, htext⟩ := List.getElem?_zip_eq_some.mp hi
  rw [(anchored_of_matchFrom h).named i name (matchFrom_names h ▸ hname), Match.group?, htext]
  rfl

/-- The numbers of the groups begin with one. -/
theorem map_fst_numbered (m : Match) :
    (m.positional.zipIdx.map fun (text, i) => (toString (i + 1), groupValue text)).map (·.1) =
      (List.range' 1 m.positional.length).map toString := by
  calc _
    _ = (m.positional.zipIdx.map (·.2)).map fun i => toString (1 + i) := by
      simp only [List.map_map, Function.comp_def, Nat.add_comm]
    _ = ((List.range' 0 m.positional.length).map (1 + ·)).map toString := by
      rw [List.zipIdx_map_snd, List.map_map]
      rfl
    _ = _ := by rw [List.map_add_range']

theorem Tells.of_named (h : r.matchFrom c = some m) (hnamed : r.hasNamedGroups = true) :
    r.Tells m (m.named.map fun (name, text) => (name, groupValue text)) := by
  have hkeys : (m.named.map fun (name, text) => (name, groupValue text)).map (·.1) =
      r.names.filterMap id := by
    rw [List.map_map]
    exact map_fst_named h
  have hnodup := hkeys ▸ r.names_nodup
  exact {
    nodup := hnodup
    names := fun _ => hkeys
    named := by
      intro name _ hname
      have hmem : name ∈ m.named.map (·.1) := by
        rw [map_fst_named h]
        exact List.mem_filterMap.mpr ⟨_, hname, rfl⟩
      obtain ⟨⟨_, text⟩, hgroup, rfl⟩ := List.mem_map.mp hmem
      rw [named?_of_mem_named h hgroup]
      exact Value.field?_of_mem hnodup (List.mem_map.mpr ⟨_, hgroup, rfl⟩)
    numbers := fun hno => absurd (hnamed.symm.trans hno) nofun
    numbered := fun _ hno => absurd (hnamed.symm.trans hno) nofun }

theorem Tells.of_unnamed (h : r.matchFrom c = some m) (hunnamed : r.hasNamedGroups = false) :
    r.Tells m (m.positional.zipIdx.map fun (text, i) => (toString (i + 1), groupValue text)) := by
  have hlength : m.positional.length = r.groupCount - 1 := by
    rw [m.length_positional, matchFrom_length h]
    rfl
  have hkeys := map_fst_numbered m
  rw [hlength] at hkeys
  have hnodup := List.Nodup.map toString_injective
    (List.nodup_range' : (List.range' 1 (r.groupCount - 1)).Nodup)
  rw [← hkeys] at hnodup
  exact {
    nodup := hnodup
    names := fun hnamed => absurd (hunnamed.symm.trans hnamed) nofun
    named := fun _ hnamed => absurd (hunnamed.symm.trans hnamed) nofun
    numbers := fun _ => hkeys
    numbered := by
      intro i _ hpos hlt
      -- The group with number `i + 1` is at index `i`, as the whole match is not among them.
      obtain ⟨i, rfl⟩ := Nat.exists_eq_add_of_le' hpos
      have hi : i < m.positional.length := by omega
      apply Value.field?_of_mem hnodup
      refine List.mem_map.mpr ⟨(m.positional[i], i), ?_, ?_⟩
      · exact List.mk_mem_zipIdx_iff_getElem?.mpr (List.getElem?_eq_getElem hi)
      · rw [Match.group?, List.getElem?_eq_getElem hi]
        rfl }

/-- The groups of a match make an object that tells them. -/
theorem groupsValue_tells (h : r.matchFrom c = some m) :
    ∃ fields, groupsValue m = .object fields ∧ r.Tells m fields := by
  have hempty := isEmpty_named h
  cases hnamed : r.hasNamedGroups with
  | true =>
    have hsome : ¬ m.named.isEmpty = true := by simp [hempty, hnamed]
    exact ⟨_, if_neg hsome, Tells.of_named h hnamed⟩
  | false =>
    have hnone : m.named.isEmpty = true := by simp [hempty, hnamed]
    exact ⟨_, if_pos hnone, Tells.of_unnamed h hnamed⟩

end

end Regex

/-- A pattern that gives its groups comes to an object whenever it matches, and to nothing
else. No name occurs twice in it. If the pattern has named groups, the names are just theirs,
in their order; otherwise they are the numbers from one up to that of the last group. Under
each name is the text of the group, or null if the group took no part in the match. -/
theorem groups_object_is_faithful {σ : Type} (en : Engine σ) (room : Nat) (e : Element)
    (s : State σ) (r : Regex) (hkind : e.kind = .pattern r .groups) :
    (∀ m scanner, s.scanner.scanRegex? r = some (m, scanner) → room ≠ 0 → s.fuel ≠ 0 →
        ∃ fields trace, r.Tells m fields ∧
          en.eval room e s = .ok (some ((Contribution.one (.object fields)).decorate e.decor))
            { s with scanner := scanner, fuel := s.fuel - 1, trace := trace }) ∧
      ∀ out t, en.eval room e s = .ok (some out) t →
        ∃ m fields, s.scanner.scanRegex? r = some (m, t.scanner) ∧ r.Tells m fields ∧
          out = (Contribution.one (.object fields)).decorate e.decor := by
  refine ⟨?_, ?_⟩
  · intro m scanner hscan hroom hfuel
    obtain ⟨room, rfl⟩ := Nat.exists_eq_succ_of_ne_zero hroom
    obtain ⟨_, hmatch, heq⟩ := Option.map_eq_some_iff.mp hscan
    cases heq
    obtain ⟨fields, hobject, htells⟩ := Regex.groupsValue_tells hmatch
    obtain ⟨trace, heval⟩ := eval_pattern en room hkind hfuel hmatch
    refine ⟨fields, trace, htells, ?_⟩
    rw [← hobject]
    exact heval
  · intro out t heval
    -- Without room or fuel there would have been an error.
    have hready : ¬ (room = 0 ∨ s.fuel = 0) := by
      intro hspent
      obtain ⟨error, u, herror, -⟩ := eval_of_spent en e hspent
      cases heval.symm.trans herror
    obtain ⟨hroom, hfuel⟩ := not_or.mp hready
    obtain ⟨room, rfl⟩ := Nat.exists_eq_succ_of_ne_zero hroom
    cases hfound : r.matchFrom s.scanner.skippedCursor with
    | none =>
      obtain ⟨trace, hnone⟩ := eval_pattern en room hkind hfuel hfound
      cases heval.symm.trans hnone
    | some m =>
      obtain ⟨fields, hobject, htells⟩ := Regex.groupsValue_tells hfound
      obtain ⟨trace, hsome⟩ := eval_pattern en room hkind hfuel hfound
      cases heval.symm.trans hsome
      refine ⟨m, fields, ?_, htells, ?_⟩
      · rw [Scanner.scanRegex?, hfound]
        rfl
      · rw [← hobject]
        rfl

/-- A letter and perhaps another one, with a sign between them that has no name. -/
def Regex.assignment : Regex :=
  .ofPattern "(?<key>a)(=)(?<value>b)?"
    (.seq (.group 1 (some "key") (.literal ['a']))
      (.seq (.group 2 none (.literal ['=']))
        (.times 0 (some 1) true (.group 3 (some "value") (.literal ['b'])))))
    (by decide)

/-- One letter or another. -/
def Regex.choice : Regex :=
  .ofPattern "(a)|(b)" (.alt (.group 1 none (.literal ['a'])) (.group 2 none (.literal ['b'])))
    (by decide)

/-- The sign is no field of the first object, as the letters have names. The groups of the
second one have numbers only. -/
theorem absent_groups_are_null :
    let en : Engine Unit := ⟨[], {}, .silent⟩
    let start (text : String) : State Unit := Grammar.startState {} text.toList ()
    (∃ fields t, en.eval 1 (.groupsOf .assignment) (start " a=") =
          .ok (some (.one (.object fields))) t ∧
        fields.map (·.1) = ["key", "value"] ∧
        (Value.object fields).field? "key" = some (.text "a") ∧
        (Value.object fields).field? "value" = some .null) ∧
      ∃ fields t, en.eval 1 (.groupsOf .choice) (start "b") =
          .ok (some (.one (.object fields))) t ∧
        fields.map (·.1) = ["1", "2"] ∧
        (Value.object fields).field? "1" = some .null ∧
        (Value.object fields).field? "2" = some (.text "b") := by
  intro en start
  constructor
  · have hscan : ((start " a=").scanner.scanRegex? .assignment).any (fun found =>
        found.1.named? "key" == some "a" && found.1.named? "value" == none) = true := by
      decide +kernel
    obtain ⟨⟨m, scanner⟩, hfound, hgroups⟩ := (Option.any_eq_true _ _).mp hscan
    obtain ⟨hkey, hvalue⟩ : m.named? "key" = some "a" ∧ m.named? "value" = none := by
      simpa using hgroups
    obtain ⟨hmatches, -⟩ := groups_object_is_faithful en 1 (.groupsOf .assignment) (start " a=")
      .assignment rfl
    obtain ⟨fields, trace, htells, heval⟩ := hmatches m scanner hfound (by decide) (by decide)
    have hfirst := htells.named "key" rfl (by decide)
    have hsecond := htells.named "value" rfl (by decide)
    rw [hkey] at hfirst
    rw [hvalue] at hsecond
    exact ⟨fields, _, heval, htells.names rfl, hfirst, hsecond⟩
  · have hscan : ((start "b").scanner.scanRegex? .choice).any (fun found =>
        found.1.group? 1 == none && found.1.group? 2 == some "b") = true := by
      decide +kernel
    obtain ⟨⟨m, scanner⟩, hfound, hgroups⟩ := (Option.any_eq_true _ _).mp hscan
    obtain ⟨hone, htwo⟩ : m.group? 1 = none ∧ m.group? 2 = some "b" := by
      simpa using hgroups
    obtain ⟨hmatches, -⟩ := groups_object_is_faithful en 1 (.groupsOf .choice) (start "b")
      .choice rfl
    obtain ⟨fields, trace, htells, heval⟩ := hmatches m scanner hfound (by decide) (by decide)
    have hfirst := htells.numbered 1 rfl (by decide) (by decide)
    have hsecond := htells.numbered 2 rfl (by decide) (by decide)
    rw [hone] at hfirst
    rw [htwo] at hsecond
    exact ⟨fields, _, heval, htells.numbers rfl, hfirst, hsecond⟩

end Peg
