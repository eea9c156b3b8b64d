import Checkout.Config
import Checkout.Proofs.Decimals
import Checkout.Proofs.Steps
import Mathlib.Logic.Function.Basic

/-!
# Settings

A configuration is read from its variables one after the other: the port, the timeout, the addresses of
the collaborators.  It is loaded exactly if each of them holds what it has to, and the first one that
does not is named in the error.  A blank value is none, and no other variable has a say in it.
-/

set_option autoImplicit false

namespace Checkout.Config

/-! ## What a variable has to hold -/

def Sets (lookup : Lookup) (name value : String) : Prop :=
  lookup name = some value ∧ Text.isBlankText value = false

/-- Without the blanks around it, the value is read as a number below the bound. -/
def IsNumber (bound : Nat) (value : String) : Prop :=
  ∃ number, Text.Names (Text.trimList value.toList) number ∧ number < bound

/-- A variable that is checked: whether it has to be set, and the bound of the number that it holds, if
it holds one. -/
structure Setting where
  name : String
  needed : Bool
  bound : Option Nat

def collaborators : List String :=
  ["CART_SERVICE_ADDR", "PRODUCT_CATALOG_SERVICE_ADDR", "CURRENCY_SERVICE_ADDR",
    "SHIPPING_SERVICE_ADDR", "PAYMENT_SERVICE_ADDR", "EMAIL_SERVICE_ADDR"]

def settings : List Setting :=
  ⟨"CHECKOUT_SERVICE_PORT", true, some (2 ^ 16)⟩ ::
    ⟨"CHECKOUT_REQUEST_TIMEOUT_MS", false, some (2 ^ 64)⟩ ::
    collaborators.map fun name => ⟨name, true, none⟩

def consulted : List String :=
  settings.map Setting.name ++
    ["CHECKOUT_SERVICE_HOST", "KAFKA_SERVICE_ADDR", "KAFKA_TOPIC", "FLAGD_ADDR"]

namespace Setting

structure Met (lookup : Lookup) (setting : Setting) : Prop where
  set : setting.needed = true → ∃ value, Sets lookup setting.name value
  number : ∀ bound ∈ setting.bound, ∀ value, Sets lookup setting.name value → IsNumber bound value

inductive Offends (lookup : Lookup) (setting : Setting) : ConfigError → Prop where
  | missing (needed : setting.needed = true) (unset : ¬ ∃ value, Sets lookup setting.name value) :
      Offends lookup setting (.missing setting.name)
  | invalid {bound : Nat} {value : String} {fault : Text.NumberFault}
      (numeric : setting.bound = some bound) (set : Sets lookup setting.name value)
      (noNumber : ¬ IsNumber bound value)
      (misread : Text.readNatural bound (Text.trimList value.toList) = .error fault) :
      Offends lookup setting (.invalid setting.name value fault)

end Setting

/-! ## Single variables -/

variable {lookup : Lookup} {name value : String}

theorem optional_eq_some_iff : optional lookup name = some value ↔ Sets lookup name value := by
  rw [optional, Option.filter_eq_some_iff, Sets]
  simp

theorem optional_eq_none_iff : optional lookup name = none ↔ ¬ ∃ value, Sets lookup name value := by
  rw [Option.eq_none_iff_forall_ne_some, not_exists]
  simp only [ne_eq, optional_eq_some_iff]

theorem isNumber_iff {bound : Nat} (positive : 0 < bound) : IsNumber bound value ↔
    ∃ number, Text.readNatural bound (Text.trimList value.toList) = .ok number := by
  simp only [IsNumber, Text.readNatural_eq_ok_iff positive]

theorem Sets.eq {other : String} (set : Sets lookup name value) (setOther : Sets lookup name other) :
    other = value :=
  Option.some.inj (setOther.1.symm.trans set.1)

namespace Setting

variable {setting : Setting} {error other : ConfigError}

theorem Met.not_offends (met : setting.Met lookup) : ¬ setting.Offends lookup error := by
  rintro (⟨needed, unset⟩ | ⟨numeric, set, noNumber, _⟩)
  · exact unset (met.set needed)
  · exact noNumber (met.number _ numeric _ set)

theorem Offends.eq (offends : setting.Offends lookup error)
    (offendsOther : setting.Offends lookup other) : other = error := by
  rcases offends with ⟨_, unset⟩ | ⟨numeric, set, _, misread⟩
  · rcases offendsOther with _ | ⟨_, set, _, _⟩
    · rfl
    · exact absurd ⟨_, set⟩ unset
  · rcases offendsOther with ⟨_, unset⟩ | ⟨numericOther, setOther, _, misreadOther⟩
    · exact absurd ⟨_, set⟩ unset
    · cases set.eq setOther
      cases numeric.symm.trans numericOther
      cases misread.symm.trans misreadOther
      rfl

end Setting

/-! ## Checks in order -/

/-- What comes of checking variables in order, when all that follows succeeds. -/
inductive Checked (lookup : Lookup) {α : Type} : List Setting → Except ConfigError α → Prop where
  | passed (value : α) : Checked lookup [] (.ok value)
  | met {setting : Setting} {rest : List Setting} {outcome : Except ConfigError α}
      (met : setting.Met lookup) (later : Checked lookup rest outcome) :
      Checked lookup (setting :: rest) outcome
  | offends {setting : Setting} {rest : List Setting} {error : ConfigError}
      (offends : setting.Offends lookup error) : Checked lookup (setting :: rest) (.error error)

namespace Checked

variable {α β : Type} {first rest : List Setting} {step : Except ConfigError α}
  {next : α → Except ConfigError β} {outcome : Except ConfigError α}

theorem bind (checked : Checked lookup first step)
    (later : ∀ value, Checked lookup rest (next value)) :
    Checked lookup (first ++ rest) (step >>= next) := by
  induction checked with
  | passed value => exact later value
  | met met _ ih => exact .met met ih
  | offends offends => exact .offends offends

theorem exists_ok_iff (checked : Checked lookup first outcome) :
    (∃ value, outcome = .ok value) ↔ ∀ setting ∈ first, setting.Met lookup := by
  induction checked with
  | passed value => simp
  | met met _ ih => rw [ih, List.forall_mem_cons, and_iff_right met]
  | offends offends =>
      rw [List.forall_mem_cons]
      constructor
      · rintro ⟨value, ⟨⟩⟩
      · rintro ⟨met, _⟩
        exact absurd offends met.not_offends

theorem eq_error_iff (checked : Checked lookup first outcome) (error : ConfigError) :
    outcome = .error error ↔ ∃ before setting after, first = before ++ setting :: after ∧
      (∀ earlier ∈ before, earlier.Met lookup) ∧ setting.Offends lookup error := by
  induction checked with
  | passed value => simp
  | @met here rest outcome met _ ih =>
      rw [ih]
      constructor
      · rintro ⟨before, setting, after, rfl, earlier, offends⟩
        exact ⟨here :: before, setting, after, rfl, List.forall_mem_cons.mpr ⟨met, earlier⟩, offends⟩
      · rintro ⟨before, setting, after, same, earlier, offends⟩
        cases before with
        | nil =>
            cases same
            exact absurd offends met.not_offends
        | cons other before =>
            cases same
            exact ⟨before, setting, after, rfl, (List.forall_mem_cons.mp earlier).2, offends⟩
  | @offends here rest found offends =>
      constructor
      · rintro ⟨⟩
        exact ⟨[], here, rest, rfl, List.forall_mem_nil _, offends⟩
      · rintro ⟨before, setting, after, same, earlier, offendsOther⟩
        cases before with
        | nil =>
            cases same
            rw [offends.eq offendsOther]
        | cons other before =>
            cases same
            exact absurd offends (earlier here List.mem_cons_self).not_offends

end Checked

/-! ## The steps of loading -/

theorem Setting.Met.of_sets {setting : Setting} (set : Sets lookup setting.name value)
    (number : ∀ bound ∈ setting.bound, IsNumber bound value) : setting.Met lookup where
  set := fun _ => ⟨value, set⟩
  number := by
    intro bound numeric other setOther
    rw [set.eq setOther]
    exact number bound numeric

theorem Setting.met_number_iff {bound : Nat} :
    Met lookup ⟨name, true, some bound⟩ ↔ ∃ value, Sets lookup name value ∧ IsNumber bound value := by
  constructor
  · intro met
    obtain ⟨value, set⟩ := met.set rfl
    exact ⟨value, set, met.number bound rfl value set⟩
  · rintro ⟨value, set, number⟩
    refine .of_sets set ?_
    rintro other ⟨⟩
    exact number

theorem Setting.met_optional_iff {bound : Nat} : Met lookup ⟨name, false, some bound⟩ ↔
    ∀ value, Sets lookup name value → IsNumber bound value := by
  constructor
  · exact fun met => met.number bound rfl
  · intro number
    refine ⟨nofun, ?_⟩
    rintro other ⟨⟩
    exact number

theorem Setting.met_text_iff : Met lookup ⟨name, true, none⟩ ↔ ∃ value, Sets lookup name value := by
  constructor
  · exact fun met => met.set rfl
  · rintro ⟨value, set⟩
    exact .of_sets set nofun

theorem checked_readNumber {setting : Setting} {bound : Nat} (positive : 0 < bound)
    (numeric : setting.bound = some bound) (set : Sets lookup setting.name value) :
    Checked lookup [setting] (readNumber bound setting.name value) := by
  rw [readNumber]
  cases outcome : Text.readNatural bound (Text.trimList value.toList) with
  | ok number =>
      refine .met (.of_sets set fun other numericOther => ?_) (.passed number)
      cases numeric.symm.trans numericOther
      exact (isNumber_iff positive).mpr ⟨number, outcome⟩
  | error fault =>
      refine .offends (.invalid numeric set ?_ outcome)
      rw [isNumber_iff positive, outcome]
      rintro ⟨number, ⟨⟩⟩

theorem checked_readPort :
    Checked lookup [⟨"CHECKOUT_SERVICE_PORT", true, some (2 ^ 16)⟩] (readPort lookup) := by
  rw [readPort, required]
  cases found : optional lookup portName with
  | none => exact .offends (.missing rfl (optional_eq_none_iff.mp found))
  | some value => exact checked_readNumber (by decide) rfl (optional_eq_some_iff.mp found)

theorem checked_readTimeout :
    Checked lookup [⟨"CHECKOUT_REQUEST_TIMEOUT_MS", false, some (2 ^ 64)⟩] (readTimeout lookup) := by
  rw [readTimeout]
  cases found : optional lookup timeoutName with
  | none =>
      have unset := optional_eq_none_iff.mp found
      exact .met ⟨nofun, fun bound _ value set => absurd ⟨value, set⟩ unset⟩ (.passed defaultTimeout)
  | some value => exact checked_readNumber (by decide) rfl (optional_eq_some_iff.mp found)

theorem checked_address (name : String) :
    Checked lookup [⟨name, true, none⟩] (address lookup name) := by
  rw [address, required]
  cases found : optional lookup name with
  | none => exact .offends (.missing rfl (optional_eq_none_iff.mp found))
  | some value => exact .met (.of_sets (optional_eq_some_iff.mp found) nofun) (.passed _)

theorem checked_load (lookup : Lookup) : Checked lookup settings (load lookup) := by
  refine checked_readPort.bind fun port => checked_readTimeout.bind fun timeout => ?_
  refine (checked_address _).bind fun cart => (checked_address _).bind fun catalog => ?_
  refine (checked_address _).bind fun currency => (checked_address _).bind fun shipping => ?_
  refine (checked_address _).bind fun payment => (checked_address _).bind fun email => ?_
  exact .passed _

theorem forall_settings_met_iff (lookup : Lookup) : (∀ setting ∈ settings, setting.Met lookup) ↔
    (∃ value, Sets lookup "CHECKOUT_SERVICE_PORT" value ∧ IsNumber (2 ^ 16) value) ∧
    (∀ value, Sets lookup "CHECKOUT_REQUEST_TIMEOUT_MS" value → IsNumber (2 ^ 64) value) ∧
    ∀ name ∈ collaborators, ∃ value, Sets lookup name value := by
  rw [settings, List.forall_mem_cons, List.forall_mem_cons, List.forall_mem_map,
    Setting.met_number_iff, Setting.met_optional_iff]
  exact and_congr_right' (and_congr_right' (forall₂_congr fun _ _ => Setting.met_text_iff))

/-- Only the values that are not blank count, and only those of these variables. -/
theorem load_congr {other : Lookup}
    (agree : ∀ name ∈ consulted, optional other name = optional lookup name) :
    load other = load lookup := by
  simp (disch := decide) only [load, readPort, readTimeout, address, required, portName, timeoutName,
    agree]

/-- A configuration is loaded exactly if the port is a number, the timeout is one if it is set, and the
collaborators have addresses; otherwise the error is about the first variable for which this fails.
Nothing depends on other variables, nor on whether a variable is blank or not set. -/
theorem load_checks_settings (lookup : Lookup) :
    ((∃ config, load lookup = .ok config) ↔
      (∃ value, Sets lookup "CHECKOUT_SERVICE_PORT" value ∧ IsNumber (2 ^ 16) value) ∧
      (∀ value, Sets lookup "CHECKOUT_REQUEST_TIMEOUT_MS" value → IsNumber (2 ^ 64) value) ∧
      ∀ name ∈ collaborators, ∃ value, Sets lookup name value) ∧
    (∀ error, load lookup = .error error ↔ ∃ before setting after,
      settings = before ++ setting :: after ∧ (∀ earlier ∈ before, earlier.Met lookup) ∧
        setting.Offends lookup error) ∧
    (∀ other : Lookup, (∀ name ∈ consulted, other name = lookup name) →
      load other = load lookup) ∧
    ∀ name value, lookup name = some value → Text.isBlankText value = true →
      load (Function.update lookup name none) = load lookup := by
  have checked := checked_load lookup
  refine ⟨?_, checked.eq_error_iff, ?_, ?_⟩
  · rw [checked.exists_ok_iff, forall_settings_met_iff]
  · intro other agree
    apply load_congr
    intro name member
    rw [optional, optional, agree name member]
  · intro name value found blank
    apply load_congr
    intro other _
    rw [optional, optional]
    by_cases same : other = name
    · rw [same, Function.update_self, found, Option.filter_some, blank]
      rfl
    · rw [Function.update_of_ne same]

/-- A port with a sign, a zero in front and blanks around it; a timeout with a unit, which comes before
all the addresses that are missing; and a blank topic. -/
def Sample.faulty : Lookup
  | "CHECKOUT_SERVICE_PORT" => some "\u00a0+08080\n"
  | "CHECKOUT_REQUEST_TIMEOUT_MS" => some " 5s "
  | "EMAIL_SERVICE_ADDR" => some "email:6060"
  | "KAFKA_TOPIC" => some "\u2003"
  | _ => none

theorem load_checks_settings_of_faults :
    load Sample.faulty = .error (.invalid "CHECKOUT_REQUEST_TIMEOUT_MS" " 5s " .invalidDigit) ∧
    (∃ value, Sample.faulty "KAFKA_TOPIC" = some value ∧ Text.isBlankText value = true) ∧
    load (Function.update Sample.faulty "KAFKA_TOPIC" none) = load Sample.faulty ∧
    load (Function.update Sample.faulty "HOME" (some "/")) = load Sample.faulty := by
  obtain ⟨_, fails, alone, blankIsUnset⟩ := load_checks_settings Sample.faulty
  have port : Setting.Met Sample.faulty ⟨"CHECKOUT_SERVICE_PORT", true, some (2 ^ 16)⟩ := by
    refine Setting.met_number_iff.mpr ⟨"\u00a0+08080\n", ⟨rfl, by decide⟩, ?_⟩
    exact (isNumber_iff (by decide)).mpr ⟨8080, rfl⟩
  have misread : Text.readNatural (2 ^ 64) (Text.trimList " 5s ".toList) = .error .invalidDigit := rfl
  have noNumber : ¬ IsNumber (2 ^ 64) " 5s " := by
    rw [isNumber_iff (by decide), misread]
    rintro ⟨number, ⟨⟩⟩
  refine ⟨(fails _).mpr ?_, ⟨_, rfl, by decide⟩, blankIsUnset _ _ rfl (by decide), alone _ ?_⟩
  · refine ⟨[_], _, _, rfl, by simpa using port, ?_⟩
    exact .invalid rfl ⟨rfl, by decide⟩ noNumber misread
  · intro name member
    apply Function.update_of_ne
    rintro rfl
    exact absurd member (by decide)

end Checkout.Config
