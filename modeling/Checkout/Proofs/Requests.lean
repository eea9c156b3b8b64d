import Checkout.Http.Client
import Checkout.Proofs.Steps

/-!
# Requests over HTTP

What is sent for a call, and what comes of it.  A request that is sent goes to the URL that the call
names and has the headers of its caller's trace.  A caller who reads the content of the response has
his answer when the reply is complete, and gives up at his deadline.
-/

set_option autoImplicit false

namespace Checkout.Http

/-- A request is sent on behalf of a caller who is not late, to the URL of its segments. -/
theorem of_build {α : Type} {base : String} {exchange : Exchange α} {caller : Caller}
    {span : SpanId} {sent : Sent} (built : build base exchange caller span = .ok sent) :
    ∃ url, urlUnder base exchange.segments = .ok url ∧ caller.life.error? caller.now = none ∧
      sent = ⟨exchange.method, url, exchange.content.map Json.text,
        requestHeaders exchange.content (caller.trace.child span)⟩ := by
  cases under : urlUnder base exchange.segments with
  | error error =>
      rw [build, under] at built
      cases built
  | ok url =>
      cases ended : caller.life.error? caller.now with
      | some error =>
          rw [build, under, ended] at built
          cases built
      | none =>
          rw [build, under, ended] at built
          simp only [bind, Except.bind, pure, Except.pure] at built
          split at built
          · cases built
          · split at built
            · cases built
            · split at built
              · cases built
              · cases built
                exact ⟨url, rfl, rfl, rfl⟩

/-! ## Replies -/

def Reply.length? : Reply → Option Nat
  | .never => none
  | .after time none => some time
  | .after _ (some ⟨_, _, .never⟩) => none
  | .after time (some ⟨_, _, .after more _⟩) => some (time + more)

/-- A reply succeeds and brings its content in time. -/
inductive Reply.Brings (left : Option Nat) (content : List UInt8) : Reply → Prop where
  | intro {time more status : Nat} {read : List UInt8 → String}
      (least : 200 ≤ status) (most : status < 300) (intime : ∀ limit ∈ left, time + more < limit) :
      Brings left content (.after time (some ⟨status, read, .after more (some content)⟩))

theorem isSuccess_iff (status : Nat) : isSuccess status = true ↔ 200 ≤ status ∧ status < 300 := by
  simp [isSuccess]

theorem Coming.within_cases {α : Type} (left : Option Nat) (coming : Coming α) :
    (∃ time value, coming = .after time value ∧ (∀ limit ∈ left, time < limit) ∧
      coming.within left = (some time, some value)) ∨
    (∀ time value, coming = .after time value → ∃ limit ∈ left, limit ≤ time) ∧
      coming.within left = (left, none) := by
  cases coming with
  | never => exact Or.inr ⟨nofun, rfl⟩
  | after time value =>
      rw [Coming.within]
      cases left with
      | none => exact Or.inl ⟨time, value, rfl, nofun, rfl⟩
      | some limit =>
          by_cases intime : time < limit
          · exact Or.inl ⟨time, value, rfl, by simpa using intime, by simp [intime]⟩
          · refine Or.inr ⟨?_, by simp [intime]⟩
            rintro _ _ ⟨⟩
            exact ⟨limit, rfl, Nat.le_of_not_lt intime⟩

def Reply.IsComplete (left : Option Nat) (reply : Reply) (n : Nat) : Prop :=
  reply.length? = some n ∧ ∀ limit ∈ left, n < limit

theorem Reply.IsComplete.unique {left : Option Nat} {reply : Reply} {n m : Nat}
    (complete : reply.IsComplete left n) (other : reply.IsComplete left m) : n = m :=
  Option.some.inj (complete.1.symm.trans other.1)

theorem Reply.Brings.isComplete {left : Option Nat} {reply : Reply} {content : List UInt8}
    (brings : reply.Brings left content) : ∃ n, reply.IsComplete left n := by
  cases brings with
  | intro least most intime => exact ⟨_, rfl, intime⟩

theorem Reply.le_length {time n : Nat} {head : Option Incoming}
    (complete : Reply.length? (.after time head) = some n) : time ≤ n := by
  rcases head with _ | ⟨status, read, _ | ⟨more, content⟩⟩
  · cases complete
    exact Nat.le_refl time
  · cases complete
  · cases complete
    exact Nat.le_add_right time more

section Conclusions

variable {α : Type} {exchange : Exchange α} {decoder : Json.Decoder α}

theorem readContent_eq_ok_iff (content : Option (List UInt8)) (value : α) :
    readContent decoder content = .ok value ↔
      ∃ bytes, content = some bytes ∧ Json.decodeBytes decoder bytes = .ok value := by
  cases content with
  | none => simp [readContent]
  | some bytes => simp [readContent, Except.mapError_eq_ok_iff]

/-- How the content of a response is taken that is read: it comes in time, or it is given up. -/
theorem understand_cases (decoder : Json.Decoder α) (left : Option Nat) (incoming : Incoming) :
    (∃ more content, incoming.content = .after more content ∧ (∀ limit ∈ left, more < limit) ∧
      (understand (.json decoder) left incoming).1 = some more ∧
      ∀ value, (understand (.json decoder) left incoming).2 = .ok value ↔
        (200 ≤ incoming.status ∧ incoming.status < 300) ∧
          ∃ bytes, content = some bytes ∧ Json.decodeBytes decoder bytes = .ok value) ∨
    (∀ more content, incoming.content = .after more content → ∃ limit ∈ left, limit ≤ more) ∧
      (understand (.json decoder) left incoming).1 = left ∧
      ∀ value, (understand (.json decoder) left incoming).2 ≠ .ok value := by
  simp only [understand, ← isSuccess_iff]
  rcases Coming.within_cases left incoming.content with
    ⟨more, content, comes, intime, within⟩ | ⟨late, within⟩
  · refine Or.inl ⟨more, content, comes, intime, ?_⟩
    rw [within]
    cases isSuccess incoming.status with
    | false => simp
    | true => simp [readContent_eq_ok_iff]
  · refine Or.inr ⟨late, ?_⟩
    rw [within]
    cases isSuccess incoming.status <;> simp [readContent]

variable (caller : Caller) (sent : Sent) (reply : Reply)

/-- How a reply is taken whose content is read: it is complete in time, or it is given up. -/
theorem conclude_cases (reads : exchange.reading = .json decoder) :
    (∃ n, reply.IsComplete (timeLeft caller) n ∧
      (conclude exchange caller sent reply).1 = some n ∧
      ∀ value, (conclude exchange caller sent reply).2 = .ok value ↔
        ∃ content, reply.Brings (timeLeft caller) content ∧
          Json.decodeBytes decoder content = .ok value) ∨
    (∀ n, ¬ reply.IsComplete (timeLeft caller) n) ∧
      (conclude exchange caller sent reply).1 = timeLeft caller ∧
      ∀ value, (conclude exchange caller sent reply).2 ≠ .ok value := by
  simp only [conclude, reads]
  rcases Coming.within_cases (timeLeft caller) reply with
    ⟨time, _ | ⟨status, read, content⟩, rfl, intime, within⟩ | ⟨late, within⟩
  · refine Or.inl ⟨time, ⟨rfl, intime⟩, by rw [within], fun value => ?_⟩
    rw [within]
    refine iff_of_false nofun ?_
    rintro ⟨_, ⟨⟩, _⟩
  · simp only [within, Option.getD_some]
    rcases understand_cases decoder ((timeLeft caller).map (· - time))
        ⟨status, read, content⟩ with
      ⟨more, brought, rfl, inmore, delay, answer⟩ | ⟨late, delay, answer⟩
    · have complete : ∀ limit ∈ timeLeft caller, time + more < limit := by
        intro limit member
        have := inmore (limit - time) (Option.mem_map_of_mem _ member)
        omega
      refine Or.inl ⟨time + more, ⟨rfl, complete⟩, by rw [delay]; rfl, fun value => ?_⟩
      rw [answer]
      constructor
      · rintro ⟨⟨least, most⟩, bytes, rfl, decoded⟩
        exact ⟨bytes, .intro least most complete, decoded⟩
      · rintro ⟨bytes, ⟨least, most, _⟩, decoded⟩
        exact ⟨⟨least, most⟩, bytes, rfl, decoded⟩
    -- The time that is left for the content ends when all the time does.
    · refine Or.inr ⟨?_, ?_, answer⟩
      · rintro n ⟨complete, inall⟩
        cases content with
        | never => cases complete
        | after more brought =>
            cases complete
            obtain ⟨_, member, least⟩ := late more brought rfl
            obtain ⟨limit, inLeft, rfl⟩ := Option.map_eq_some_iff.mp member
            have := inall limit inLeft
            omega
      · rw [delay]
        cases left : timeLeft caller with
        | none => rfl
        | some limit => exact congrArg some (Nat.add_sub_cancel' (Nat.le_of_lt (intime limit left)))
  · refine Or.inr ⟨?_, by rw [within], fun value => by rw [within]; nofun⟩
    rintro n ⟨complete, inall⟩
    cases reply with
    | never => cases complete
    | after time head =>
        obtain ⟨limit, member, least⟩ := late time head rfl
        exact absurd (inall limit member)
          (Nat.not_lt_of_le (Nat.le_trans least (Reply.le_length complete)))

end Conclusions

section Performances

variable {σ α : Type} (around : Surroundings σ) (caller : Caller) (world : σ)

def replyTo? (base : String) (exchange : Exchange α) : Option Reply :=
  match build base exchange caller (around.span world).1 with
  | .error _ => none
  | .ok sent => some (around.exchange sent (around.span world).2).1

theorem perform_hangsUp (base : String) (exchange : Exchange α) :
    (perform around base exchange caller world).hangsUp = false := by
  simp only [perform]
  cases build base exchange caller (around.span world).1 <;> rfl

variable {decoder : Json.Decoder α} {base : String} {exchange : Exchange α}

theorem perform_unsent (unsent : replyTo? around caller world base exchange = none) :
    (perform around base exchange caller world).delay = some 0 ∧
      ∀ later, ∃ error, ((perform around base exchange caller world).answer later).1 =
        .error error := by
  simp only [perform]
  simp only [replyTo?] at unsent
  cases built : build base exchange caller (around.span world).1 with
  | error error => exact ⟨rfl, fun _ => ⟨error, rfl⟩⟩
  | ok sent =>
      rw [built] at unsent
      cases unsent

variable {reply : Reply}

theorem perform_sent (replied : replyTo? around caller world base exchange = some reply) :
    ∃ sent, (perform around base exchange caller world).delay =
        (conclude exchange caller sent reply).1 ∧
      ∀ later, ((perform around base exchange caller world).answer later).1 =
        (conclude exchange caller sent reply).2 := by
  simp only [perform]
  simp only [replyTo?] at replied
  cases built : build base exchange caller (around.span world).1 with
  | error error =>
      rw [built] at replied
      cases replied
  | ok sent =>
      rw [built] at replied
      obtain rfl := Option.some.inj replied
      exact ⟨sent, rfl, fun _ => rfl⟩

variable (reads : exchange.reading = .json decoder)

include reads

theorem perform_takes {n : Nat} (replied : replyTo? around caller world base exchange = some reply)
    (complete : reply.IsComplete (timeLeft caller) n) :
    (perform around base exchange caller world).delay = some n := by
  obtain ⟨sent, delay, -⟩ := perform_sent around caller world replied
  rcases conclude_cases caller sent reply reads with ⟨m, other, took, -⟩ | ⟨late, -⟩
  · rw [delay, took, complete.unique other]
  · exact absurd complete (late n)

theorem perform_waits (replied : replyTo? around caller world base exchange = some reply)
    (late : ∀ n, ¬ reply.IsComplete (timeLeft caller) n) :
    (perform around base exchange caller world).delay = timeLeft caller := by
  obtain ⟨sent, delay, -⟩ := perform_sent around caller world replied
  rcases conclude_cases caller sent reply reads with ⟨m, complete, -⟩ | ⟨-, waited, -⟩
  · exact absurd complete (late m)
  · rw [delay, waited]

theorem perform_answer_eq_ok_iff (later : σ) (value : α) :
    ((perform around base exchange caller world).answer later).1 = .ok value ↔
      ∃ reply ∈ replyTo? around caller world base exchange, ∃ content,
        reply.Brings (timeLeft caller) content ∧ Json.decodeBytes decoder content = .ok value := by
  cases replied : replyTo? around caller world base exchange with
  | none =>
      obtain ⟨-, failed⟩ := perform_unsent around caller world replied
      obtain ⟨error, answer⟩ := failed later
      rw [answer]
      simp
  | some reply =>
      obtain ⟨sent, -, answer⟩ := perform_sent around caller world replied
      rw [answer]
      rcases conclude_cases caller sent reply reads with ⟨m, -, -, told⟩ | ⟨late, -, untold⟩
      · simpa using told value
      · refine iff_of_false (untold value) ?_
        rintro ⟨_, ⟨⟩, content, brings, -⟩
        obtain ⟨n, complete⟩ := brings.isComplete
        exact late n complete

end Performances

end Checkout.Http
