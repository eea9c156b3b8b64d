import Checkout.Http.Collaborators
import Checkout.Proofs.JsonBytes
import Checkout.Proofs.JsonForms
import Checkout.Proofs.Requests
import Checkout.Proofs.Steps

/-!
# Replies to questions for flags

What the reply to a question for a flag tells.  A reply of success that is complete in time tells the
value that its content holds as a field, if it does; any other reply tells nothing.  A flag of the
value's kind then has that value, and in all other cases the default of its kind.
-/

set_option autoImplicit false

namespace Checkout

namespace Json

/-- A value is the field of a record with one field: the only member called `name` of an object in
which all names are texts, or the only element of an array. -/
inductive IsFieldOf (name : String) (value : Json) : Json → Prop where
  | object (before after : List (Option String × Json))
      (others : ∀ member ∈ before ++ after, ∃ other, other ≠ name ∧ member.1 = some other) :
      IsFieldOf name value (.object (before ++ (some name, value) :: after))
  | array : IsFieldOf name value (.array [value])

section Members

variable {name : String}

theorem knownMembers_cons_self (value : Json) (rest : List (Option String × Json)) :
    knownMembers [name] ((some name, value) :: rest) =
      (knownMembers [name] rest).bind fun others =>
        if others.any fun (other, _) => other == name then .error .mismatched
        else .ok ((name, value) :: others) := by
  rw [knownMembers]
  simp only [if_pos List.mem_cons_self]
  rfl

theorem knownMembers_cons_other {other : String} (distinct : other ≠ name) (value : Json)
    (rest : List (Option String × Json)) :
    knownMembers [name] ((some other, value) :: rest) = knownMembers [name] rest := by
  have unknown : other ∉ [name] := by simpa using distinct
  rw [knownMembers]
  simp only [if_neg unknown]
  cases knownMembers [name] rest <;> rfl

theorem knownMembers_of_others {members : List (Option String × Json)}
    (others : ∀ member ∈ members, ∃ other, other ≠ name ∧ member.1 = some other)
    (rest : List (Option String × Json)) :
    knownMembers [name] (members ++ rest) = knownMembers [name] rest := by
  induction members with
  | nil => rfl
  | cons member members ih =>
      obtain ⟨⟨other, distinct, name_eq⟩, unknown⟩ := List.forall_mem_cons.mp others
      obtain ⟨key, value⟩ := member
      cases name_eq
      rw [List.cons_append, knownMembers_cons_other distinct, ih unknown]

/-- Of the members that are read, at most one has the name that is known. -/
theorem knownMembers_cases {members : List (Option String × Json)} {known : List (String × Json)}
    (read : knownMembers [name] members = .ok known) :
    (known = [] ∧ ∀ member ∈ members, ∃ other, other ≠ name ∧ member.1 = some other) ∨
      ∃ value before after, known = [(name, value)] ∧
        members = before ++ (some name, value) :: after ∧
        ∀ member ∈ before ++ after, ∃ other, other ≠ name ∧ member.1 = some other := by
  induction members generalizing known with
  | nil =>
      cases read
      exact Or.inl ⟨rfl, nofun⟩
  | cons member rest ih =>
      obtain ⟨key, value⟩ := member
      cases key with
      | none => cases read
      | some key =>
          by_cases same : key = name
          · subst same
            rw [knownMembers_cons_self] at read
            cases inRest : knownMembers [key] rest with
            | error fault =>
                rw [inRest] at read
                cases read
            | ok others =>
                rw [inRest] at read
                rcases ih inRest with ⟨rfl, unknown⟩ | ⟨again, before, after, rfl, _, _⟩
                · cases read
                  exact Or.inr ⟨value, [], rest, rfl, rfl, unknown⟩
                -- A second member of that name is refused.
                · simp [Except.bind] at read
          · rw [knownMembers_cons_other same] at read
            have unknown : ∃ other, other ≠ name ∧ some key = some other := ⟨key, same, rfl⟩
            rcases ih read with ⟨rfl, others⟩ | ⟨found, before, after, rfl, rfl, others⟩
            · exact Or.inl ⟨rfl, List.forall_mem_cons.mpr ⟨unknown, others⟩⟩
            · exact Or.inr ⟨found, (some key, value) :: before, after, rfl, rfl,
                List.forall_mem_cons.mpr ⟨unknown, others⟩⟩

end Members

/-! ## Values of flags -/

/-- An integer is written in one way only. -/
theorem toInt?_eq_some_iff (numeral : Numeral) (i : Int) :
    numeral.toInt? = some i ↔ number numeral = ofInt i := by
  constructor
  · intro read
    cases numeral with
    | integer negative magnitude =>
        cases negative with
        | false =>
            cases read
            have nonnegative : ¬ (magnitude : Int) < 0 := by omega
            rw [ofInt, decide_eq_false nonnegative, Int.natAbs_natCast]
        | true =>
            by_cases zero : magnitude = 0
            · simp [Numeral.toInt?, zero] at read
            · simp only [Numeral.toInt?, if_neg zero, Option.some.injEq] at read
              subst read
              have negative : -(magnitude : Int) < 0 := by omega
              rw [ofInt, decide_eq_true negative, Int.natAbs_neg, Int.natAbs_natCast]
    | decimal negative significand exponent => cases read
  · intro written
    cases written
    exact toInt?_ofInt i

theorem isPlain_ofInt (depth : Nat) {i : Int} (fits : fitsInt64 i = true) :
    isPlain depth (ofInt i) = true := by
  have bound : 9223372036854775808 < doubleBound := by decide +kernel
  simp only [fitsInt64, Bool.and_eq_true, decide_eq_true_eq] at fits
  have magnitude : i.natAbs < doubleBound := by omega
  rw [ofInt, isPlain, Numeral.inDoubleRange, decide_eq_true magnitude]

theorem decodePlain_eq_ok_iff (depth : Nat) (json value : Json) :
    decodePlain depth json = .ok value ↔ isPlain depth value = true ∧ json = value := by
  rw [decodePlain]
  cases plain : isPlain depth json with
  | false =>
      refine ⟨nofun, ?_⟩
      rintro ⟨isPlain, rfl⟩
      cases plain.symm.trans isPlain
  | true =>
      refine ⟨fun same => ?_, fun ⟨_, same⟩ => same ▸ rfl⟩
      cases same
      exact ⟨plain, rfl⟩

end Json

namespace Http

theorem readField_eq_ok_iff {α : Type} (name : String) (decoder : Json.Decoder α) (json : Json)
    (result : α) :
    readField name decoder json = .ok result ↔
      ∃ value, value.IsFieldOf name json ∧ decoder value = .ok result := by
  constructor
  · intro read
    rw [readField] at read
    cases json with
    | array elements =>
        rcases elements with _ | ⟨value, _ | ⟨second, rest⟩⟩
        · cases read
        · exact ⟨value, .array, read⟩
        · simp [Json.slots, bind, Except.bind] at read
    | object members =>
        rw [Json.slots] at read
        cases known : Json.knownMembers [name] members with
        | error fault =>
            rw [known] at read
            cases read
        | ok fields =>
            rw [known] at read
            rcases Json.knownMembers_cases known with
              ⟨rfl, _⟩ | ⟨value, before, after, rfl, rfl, others⟩
            · cases read
            · simp [bind, Except.bind, pure, Except.pure, Json.required] at read
              exact ⟨value, .object before after others, read⟩
    | _ => cases read
  · rintro ⟨value, holds, read⟩
    cases holds with
    | array => exact read
    | object before after others =>
        obtain ⟨first, last⟩ := List.forall_mem_append.mp others
        have none_after : Json.knownMembers [name] after = .ok [] := by
          simpa [Json.knownMembers] using Json.knownMembers_of_others last []
        rw [readField, Json.slots, Json.knownMembers_of_others first, Json.knownMembers_cons_self,
          none_after]
        simpa [bind, Except.bind, pure, Except.pure, Json.required] using read

/-- A reply tells a value if it brings, in time, content that has the value as its field. -/
def Reply.Tells (left : Option Nat) (value : Json) (reply : Reply) : Prop :=
  ∃ content json, reply.Brings left content ∧ Json.parseBytes? content = some json ∧
    value.IsFieldOf "value" json

theorem decodeBytes_value_eq_ok_iff (content : List UInt8) (value : Json) :
    Json.decodeBytes (readField "value" (Json.decodePlain flagDepth)) content = .ok value ↔
      (∃ json, Json.parseBytes? content = some json ∧ value.IsFieldOf "value" json) ∧
        Json.isPlain flagDepth value = true := by
  rw [Json.decodeBytes]
  cases Json.parseBytes? content with
  | none => simp [Json.decodeParsed]
  | some json =>
      rw [Json.decodeParsed, readField_eq_ok_iff]
      simp only [Json.decodePlain_eq_ok_iff]
      constructor
      · rintro ⟨_, holds, plain, rfl⟩
        exact ⟨⟨json, rfl, holds⟩, plain⟩
      · rintro ⟨⟨_, ⟨⟩, holds⟩, plain⟩
        exact ⟨value, holds, plain, rfl⟩

/-- A reason that is not a text does not matter. -/
example : Json.decodeBytes (readField "value" (Json.decodePlain flagDepth))
    (Text.utf8 "\x7b\"value\":true,\"reason\":\"" ++ 0xFF :: Text.utf8 "\"\x7d") =
      .ok (.bool true) :=
  rfl

end Http

/-- What a flag is, given the time for the question and the reply to it, if there was one: on or not
zero exactly if the reply tells that. -/
def FlagKind.Means (left : Option Nat) (told : Option Http.Reply) :
    (kind : FlagKind) → kind.Value → Prop
  | .boolean, on => on = true ↔ ∃ reply ∈ told, reply.Tells left (.bool true)
  | .integer, count => ∀ n : Int, n ≠ 0 →
    (count = n ↔ fitsInt64 n = true ∧ ∃ reply ∈ told, reply.Tells left (.ofInt n))

namespace Http

theorem flagValue?_boolean (json : Json) (on : Bool) :
    flagValue? .boolean json = some on ↔ json = .bool on := by
  cases json with
  | bool value => simp [flagValue?]
  | _ => simp [flagValue?]

theorem flagValue?_integer (json : Json) (n : Int) :
    flagValue? .integer json = some n ↔ json = .ofInt n ∧ fitsInt64 n = true := by
  cases json with
  | number numeral =>
      rw [flagValue?, Option.filter_eq_some_iff, Json.toInt?_eq_some_iff]
  | _ => simp [flagValue?, Json.ofInt]

theorem valueOr_flagAnswer_eq_iff {kind : FlagKind} (flag : String)
    (answer : Except ServiceError Json) {value : kind.Value} (told : value ≠ kind.default) :
    Flags.valueOr kind (flagAnswer kind flag answer) = value ↔
      ∃ json, answer = .ok json ∧ flagValue? kind json = some value := by
  cases answer with
  | error error => simpa [flagAnswer, Flags.valueOr] using told.symm
  | ok json =>
      cases read : flagValue? kind json with
      | none => simpa [flagAnswer, read, Flags.valueOr] using told.symm
      | some other => simp [flagAnswer, read, Flags.valueOr]

theorem means_default (left : Option Nat) (kind : FlagKind) :
    kind.Means left none kind.default := by
  cases kind with
  | boolean => simp [FlagKind.Means, FlagKind.default]
  | integer =>
      intro n nonzero
      refine ⟨fun same => absurd same.symm nonzero, ?_⟩
      rintro ⟨_, _, ⟨⟩, _⟩

/-- An answer that is the value that a reply tells, if it tells one, gives the flag its meaning. -/
theorem means_of_answer (kind : FlagKind) (flag : String) {answer : Except ServiceError Json}
    {left : Option Nat} {told : Option Reply}
    (understood : ∀ json, answer = .ok json ↔
      (∃ reply ∈ told, reply.Tells left json) ∧ Json.isPlain flagDepth json = true) :
    kind.Means left told (Flags.valueOr kind (flagAnswer kind flag answer)) := by
  cases kind with
  | boolean =>
      have on : true ≠ FlagKind.boolean.default := Bool.noConfusion
      refine (valueOr_flagAnswer_eq_iff flag answer on).trans ?_
      constructor
      · rintro ⟨json, ok, read⟩
        cases (flagValue?_boolean json true).mp read
        exact ((understood _).mp ok).1
      · intro tells
        exact ⟨.bool true, (understood _).mpr ⟨tells, rfl⟩, rfl⟩
  | integer =>
      intro n nonzero
      refine (valueOr_flagAnswer_eq_iff flag answer nonzero).trans ?_
      constructor
      · rintro ⟨json, ok, read⟩
        obtain ⟨rfl, fits⟩ := (flagValue?_integer json n).mp read
        exact ⟨fits, ((understood _).mp ok).1⟩
      · rintro ⟨fits, tells⟩
        exact ⟨.ofInt n, (understood _).mpr ⟨tells, Json.isPlain_ofInt flagDepth fits⟩,
          (flagValue?_integer _ n).mpr ⟨rfl, fits⟩⟩

/-! ## Questions over HTTP -/

section Questions

variable {σ : Type} (around : Surroundings σ) (caller : Caller) (world : σ)

def flagReply? (config : Config) (enabled : Bool) (flag : String) : Option Reply :=
  if enabled then
    config.flagBackend.bind fun base => replyTo? around caller world base (flagExchange flag)
  else none

/-- How a question for a flag is taken, given the reply to it, if there was one. -/
structure Answers {kind : FlagKind} (told : Option Reply)
    (reaction : Reaction σ (Except FlagError kind.Value)) : Prop where
  stays : reaction.hangsUp = false
  prompt : told = none → reaction.delay = some 0
  takes : ∀ reply ∈ told, ∀ n, reply.IsComplete (timeLeft caller) n → reaction.delay = some n
  waits : ∀ reply ∈ told, (∀ n, ¬ reply.IsComplete (timeLeft caller) n) →
    reaction.delay = timeLeft caller
  means : ∀ later, kind.Means (timeLeft caller) told (Flags.valueOr kind (reaction.answer later).1)

theorem askFlag_answers (base : String) (kind : FlagKind) (flag : String) :
    Answers caller (replyTo? around caller world base (flagExchange flag))
      (askFlag around base caller kind flag world) where
  stays := perform_hangsUp around caller world base (flagExchange flag)
  prompt unsent := (perform_unsent around caller world unsent).1
  takes _ replied _ complete := perform_takes around caller world rfl replied complete
  waits _ replied late := perform_waits around caller world rfl replied late
  means later := by
    refine means_of_answer kind flag fun json => ?_
    rw [perform_answer_eq_ok_iff around caller world rfl]
    simp only [decodeBytes_value_eq_ok_iff]
    constructor
    · rintro ⟨reply, replied, content, brings, ⟨held, parsed, field⟩, plain⟩
      exact ⟨⟨reply, replied, content, held, brings, parsed, field⟩, plain⟩
    · rintro ⟨⟨reply, replied, content, held, brings, parsed, field⟩, plain⟩
      exact ⟨reply, replied, content, brings, ⟨held, parsed, field⟩, plain⟩

theorem flag_answers (config : Config) (kind : FlagKind) (flag : String) :
    Answers caller (flagReply? around caller world config true flag)
      ((backend around config).flag caller kind flag world) := by
  cases given : config.flagBackend with
  | none =>
      simp only [backend, flagReply?, given]
      exact ⟨rfl, fun _ => rfl, nofun, nofun, fun _ => means_default _ kind⟩
  | some base =>
      simp only [backend, flagReply?, given]
      exact askFlag_answers around caller world base kind flag

end Questions

end Http

end Checkout
