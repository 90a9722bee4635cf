import Conch.Flags
import Conch.Proofs.Calling

/-!
Flags as they are written. A setting of a flag is one argument or two (`Written.args`), and the
flags of a command are settings one after another, up to where they end (`Ends`). Reading them
inverts writing them.

* `read_written`: a written setting is read as what it sets, and reading goes on behind it.
* `read_ending`: where flags end, all that is left is the rest.
* `exists_written`: whatever is read was written so.
* `reading_inverts_writing`: both directions, with what each flag is set to.
-/

namespace Conch.Flags

/-! ### Written settings -/

/-- What may be the name of a flag. -/
structure IsName (name : Text) : Prop where
  nonempty : name ≠ []
  noMark : '=' ∉ name
  noDash : name.head? ≠ some '-'

/-- What stands in front of the name of a flag. -/
inductive Dashes where
  | one
  | two
  deriving DecidableEq, Repr

def Dashes.text : Dashes → Text
  | .one => "-"
  | .two => "--"

/-- A truth value that a switch may be given. -/
inductive Truth where
  | yes
  | one
  | no
  | zero
  deriving DecidableEq, Repr

def Truth.text : Truth → Text
  | .yes => "true"
  | .one => "1"
  | .no => "false"
  | .zero => "0"

def Truth.value : Truth → Bool
  | .yes | .one => true
  | .no | .zero => false

/-- How a flag is set. -/
inductive Form where
  /-- A switch that stands alone. -/
  | alone
  /-- A switch with a truth value behind its name. -/
  | explicit (truth : Truth)
  /-- A value behind the name. -/
  | inline (value : Text)
  /-- A value in the next argument. -/
  | separate (value : Text)
  deriving DecidableEq, Repr

namespace Form

/-- What a flag that is set so takes. -/
def kind : Form → Kind
  | .alone | .explicit _ => .switch
  | .inline _ | .separate _ => .valued

/-- What the flag is set to. -/
def setting : Form → Setting
  | .alone => .switch true
  | .explicit truth => .switch truth.value
  | .inline value | .separate value => .value value

/-- What is written behind the name, in the same argument. -/
def behind : Form → Text
  | .alone | .separate _ => []
  | .explicit truth => '=' :: truth.text
  | .inline value => '=' :: value

/-- The arguments that follow. -/
def more : Form → List Text
  | .separate value => [value]
  | _ => []

end Form

/-- A setting as it is written. -/
structure Written where
  dashes : Dashes
  name : Text
  form : Form
  deriving DecidableEq, Repr

namespace Written

/-- The arguments that set a flag. -/
def args (w : Written) : List Text := (w.dashes.text ++ (w.name ++ w.form.behind)) :: w.form.more

/-- A setting of one of the flags `known`, in a form that this flag takes. -/
def IsOf (known : List (Text × Kind)) (w : Written) : Prop :=
  known.lookup w.name = some w.form.kind

/-- The name and what it is set to. -/
def entry (w : Written) : Text × Setting := (w.name, w.form.setting)

end Written

/-! ### Where flags end -/

/-- Arguments that do not begin with a flag. -/
def BeginsPlainly (rest : List Text) : Prop :=
  ∀ arg ∈ rest.head?, arg = "-" ∨ arg.head? ≠ some '-'

instance (rest : List Text) : Decidable (BeginsPlainly rest) :=
  inferInstanceAs (Decidable (∀ arg ∈ rest.head?, _))

/-- The arguments from where flags end, by the arguments that are left of them. -/
inductive Ends (rest : List Text) : List Text → Prop where
  | marked : Ends rest ("--" :: rest)
  | plain (h : BeginsPlainly rest) : Ends rest rest

theorem Ends.isSuffix {rest ending : List Text} (h : Ends rest ending) : rest <:+ ending := by
  cases h with
  | marked => exact List.suffix_cons _ _
  | plain _ => exact List.suffix_rfl

/-- Where flags end, all that is left is the rest. -/
theorem read_ending (known : List (Text × Kind)) {rest ending : List Text}
    (h : Ends rest ending) : read known ending = .ok { rest := rest } := by
  cases h with
  | marked => rw [read, if_pos rfl]
  | plain h =>
      cases rest with
      | nil => rw [read]
      | cons arg args =>
          rcases h arg rfl with rfl | hdash
          · have hbody : body? "-" = some [] := by decide
            rw [read, if_neg (by decide), hbody]
            rfl
          · exact read_argument known hdash args

/-! ### Reading what was written -/

theorem body?_dashes (dashes : Dashes) {body : Text} (h : body.head? ≠ some '-') :
    body? (dashes.text ++ body) = some body := by
  cases dashes with
  | two => simp [body?, Dashes.text, Text.afterStart?]
  | one =>
      cases body with
      | nil => rfl
      | cons c rest =>
          have hc : c ≠ '-' := fun hdash => h (by rw [hdash]; rfl)
          simp [body?, Dashes.text, Text.afterStart?, List.isPrefixOf, Ne.symm hc]

/-- A text without the mark is not cut. -/
theorem cut?_eq_none {mark : Char} {s : Text} (h : mark ∉ s) : Text.cut? mark s = none := by
  have hdrop : s.dropWhile (· != mark) = [] := by
    rw [List.dropWhile_eq_nil_iff]
    intro c hc
    have hne : c ≠ mark := fun heq => h (heq ▸ hc)
    simpa using hne
  rw [Text.cut?, hdrop]

theorem nameAndValue_plain {name : Text} (h : '=' ∉ name) : nameAndValue name = (name, none) := by
  rw [nameAndValue, cut?_eq_none h]

/-- A text is cut at the first of the marks in it. -/
theorem cut?_append {mark : Char} {s : Text} (h : mark ∉ s) (t : Text) :
    Text.cut? mark (s ++ mark :: t) = some (s, t) := by
  have hs : ∀ c ∈ s, (c != mark) = true := by
    intro c hc
    have hne : c ≠ mark := fun heq => h (heq ▸ hc)
    simpa using hne
  simp [Text.cut?, List.dropWhile_append_of_pos hs, List.takeWhile_append_of_pos hs]

theorem nameAndValue_marked {name : Text} (h : '=' ∉ name) (value : Text) :
    nameAndValue (name ++ '=' :: value) = (name, some value) := by
  rw [nameAndValue, cut?_append h]

theorem switchValue?_text (truth : Truth) :
    switchValue? (some truth.text) = some truth.value := by
  cases truth <;> decide

/-- The body of an argument that sets a flag begins as the name does. -/
theorem IsName.head_append {name : Text} (h : IsName name) (behind : Text) :
    (name ++ behind).head? = name.head? :=
  List.head?_append_of_ne_nil _ h.nonempty

theorem IsName.namesNoFlag_append {name : Text} (h : IsName name) (behind : Text) :
    namesNoFlag (name ++ behind) = false := by
  have hmark : name.head? ≠ some '=' := fun hhead => h.noMark (List.mem_of_mem_head? hhead)
  simp [namesNoFlag, h.head_append, h.nonempty, h.noDash, hmark]

/-- An argument with a name behind its dashes does not end the flags. -/
theorem IsName.dashes_ne_end {name : Text} (h : IsName name) (dashes : Dashes) (behind : Text) :
    dashes.text ++ (name ++ behind) ≠ ("--" : Text) := by
  intro heq
  have hbody : body? (dashes.text ++ (name ++ behind)) = some (name ++ behind) :=
    body?_dashes dashes (by rw [h.head_append]; exact h.noDash)
  rw [heq] at hbody
  have hnil : name ++ behind = [] := (Option.some.inj hbody).symm
  exact h.nonempty (List.append_eq_nil_iff.mp hnil).1

/-- **A written setting is read as what it sets**, and reading goes on behind it. -/
theorem read_written {known : List (Text × Kind)} {w : Written} (hname : IsName w.name)
    (hknown : w.IsOf known) (args : List Text) :
    read known (w.args ++ args) = (read known args).map (prepend w.name w.form.setting) := by
  have hbody : body? (w.dashes.text ++ (w.name ++ w.form.behind)) =
      some (w.name ++ w.form.behind) :=
    body?_dashes _ (by rw [hname.head_append]; exact hname.noDash)
  obtain ⟨dashes, name, form⟩ := w
  unfold Written.IsOf at hknown
  dsimp only at hname hknown hbody ⊢
  unfold Written.args
  rw [List.cons_append, read, if_neg (hname.dashes_ne_end _ _), hbody]
  simp only [hname.namesNoFlag_append, Bool.false_eq_true, if_false]
  cases form with
  | alone =>
      simp only [Form.behind, List.append_nil, nameAndValue_plain hname.noMark, hknown, Form.kind]
      rfl
  | explicit truth =>
      simp only [Form.behind, nameAndValue_marked hname.noMark, hknown, Form.kind,
        switchValue?_text]
      rfl
  | inline value =>
      simp only [Form.behind, nameAndValue_marked hname.noMark, hknown, Form.kind]
      rfl
  | separate value =>
      simp only [Form.behind, List.append_nil, nameAndValue_plain hname.noMark, hknown, Form.kind]
      rfl

/-! ### What was read was written -/

theorem exists_dashes {arg body : Text} (h : body? arg = some body) :
    ∃ dashes : Dashes, arg = dashes.text ++ body := by
  have hstart : ∀ start : Text, Text.afterStart? start arg = some body → arg = start ++ body := by
    intro start hstart
    unfold Text.afterStart? at hstart
    split_ifs at hstart with hprefix
    obtain ⟨rest, rfl⟩ := List.isPrefixOf_iff_prefix.mp hprefix
    rw [List.drop_left] at hstart
    rw [Option.some.inj hstart]
  rcases Option.or_eq_some_iff.mp h with h | ⟨-, h⟩
  · exact ⟨.two, hstart _ h⟩
  · exact ⟨.one, hstart _ h⟩

/-- The name of a flag and the value behind it are what the argument is made of. -/
theorem eq_of_nameAndValue {body name : Text} {inline : Option Text}
    (h : nameAndValue body = (name, inline)) :
    body = name ++ (inline.map ('=' :: ·)).getD [] := by
  unfold nameAndValue Text.cut? at h
  cases hdrop : body.dropWhile (· != '=') with
  | nil =>
      simp only [hdrop] at h
      cases h
      exact (List.append_nil _).symm
  | cons c value =>
      have hc : c = '=' := by
        have hhead := List.head?_dropWhile_not (· != '=') body
        rw [hdrop] at hhead
        simpa using hhead
      simp only [hdrop] at h
      cases h
      calc body = body.takeWhile (· != '=') ++ body.dropWhile (· != '=') :=
            List.takeWhile_append_dropWhile.symm
        _ = body.takeWhile (· != '=') ++ '=' :: value := by rw [hdrop, hc]

theorem exists_form_of_switchValue? {inline : Option Text} {on : Bool}
    (h : switchValue? inline = some on) :
    ∃ form : Form, form.kind = .switch ∧ form.setting = .switch on ∧ form.more = [] ∧
      form.behind = (inline.map ('=' :: ·)).getD [] := by
  cases inline with
  | none =>
      cases h
      exact ⟨.alone, rfl, rfl, rfl, rfl⟩
  | some value =>
      have hform : ∀ truth : Truth, value = truth.text → truth.value = on →
          ∃ form : Form, form.kind = .switch ∧ form.setting = .switch on ∧ form.more = [] ∧
            form.behind = '=' :: value := by
        rintro truth rfl rfl
        exact ⟨.explicit truth, rfl, rfl, rfl, rfl⟩
      simp only [switchValue?] at h
      split_ifs at h with hyes hno
      · rcases hyes with hvalue | hvalue
        · exact hform .yes hvalue (Option.some.inj h)
        · exact hform .one hvalue (Option.some.inj h)
      · rcases hno with hvalue | hvalue
        · exact hform .no hvalue (Option.some.inj h)
        · exact hform .zero hvalue (Option.some.inj h)

/-- Flags are written by settings one after another, up to where they end. -/
structure Spells (known : List (Text × Kind)) (written : List Written) (args : List Text)
    (flags : Flags) : Prop where
  known : ∀ w ∈ written, w.IsOf known
  settings : flags.settings = written.map Written.entry
  args : ∃ ending, Ends flags.rest ending ∧ args = written.flatMap Written.args ++ ending

theorem Spells.nil {known : List (Text × Kind)} {rest ending : List Text} (h : Ends rest ending) :
    Spells known [] ending { rest := rest } where
  known := fun _ hmem => absurd hmem List.not_mem_nil
  settings := rfl
  args := ⟨ending, h, rfl⟩

theorem Spells.cons {known : List (Text × Kind)} {written : List Written} {args : List Text}
    {flags : Flags} (h : Spells known written args flags) {w : Written} (hw : w.IsOf known) :
    Spells known (w :: written) (w.args ++ args) (prepend w.name w.form.setting flags) where
  known := List.forall_mem_cons.mpr ⟨hw, h.known⟩
  settings := by rw [prepend, h.settings]; rfl
  args := by
    obtain ⟨ending, hends, hargs⟩ := h.args
    exact ⟨ending, hends, by rw [hargs, List.flatMap_cons, List.append_assoc]⟩

/-- An argument without dashes in front of it. -/
theorem head_of_body?_eq_none {arg : Text} (h : body? arg = none) : arg.head? ≠ some '-' := by
  intro hhead
  obtain ⟨rest, rfl⟩ := List.head?_eq_some_iff.mp hhead
  have hdash : Text.afterStart? "-" ('-' :: rest) = some rest := by
    simp [Text.afterStart?]
  unfold body? at h
  rw [hdash, Option.or_some] at h
  cases h

/-- One turn of reading that goes on has read one setting. -/
theorem exists_written_cons {known : List (Text × Kind)} {arg body name : Text}
    {inline : Option Text} (hbody : body? arg = some body)
    (hname : nameAndValue body = (name, inline)) (form : Form)
    (hknown : known.lookup name = some form.kind)
    (hbehind : form.behind = (inline.map ('=' :: ·)).getD []) {args : List Text}
    (ih : ∀ {flags}, read known args = .ok flags → ∃ written, Spells known written args flags)
    {flags : Flags} (h : (read known args).map (prepend name form.setting) = .ok flags) :
    ∃ written, Spells known written (arg :: form.more ++ args) flags := by
  obtain ⟨dashes, rfl⟩ := exists_dashes hbody
  cases hread : read known args with
  | error fault =>
      rw [hread] at h
      cases h
  | ok inner =>
      rw [hread] at h
      cases h
      obtain ⟨written, hwritten⟩ := ih hread
      have hcons := hwritten.cons (w := ⟨dashes, name, form⟩) hknown
      rw [Written.args, hbehind, ← eq_of_nameAndValue hname] at hcons
      exact ⟨_, hcons⟩

/-- **Whatever is read was written so.** -/
theorem exists_written {known : List (Text × Kind)} {args : List Text} {flags : Flags}
    (h : read known args = .ok flags) : ∃ written, Spells known written args flags := by
  -- along the recursion of `read`: it ends in one of four ways, or has read one setting
  fun_induction read known args generalizing flags with
  | case1 =>
      cases h
      exact ⟨[], .nil (.plain nofun)⟩
  | case2 args =>
      cases h
      exact ⟨[], .nil .marked⟩
  | case3 arg args _ hbody =>
      cases h
      have hplain : BeginsPlainly (arg :: args) := by
        rintro _ ⟨⟩
        exact .inr (head_of_body?_eq_none hbody)
      exact ⟨[], .nil (.plain hplain)⟩
  | case4 args =>
      cases h
      have hplain : BeginsPlainly ("-" :: args) := by
        rintro _ ⟨⟩
        exact .inl rfl
      exact ⟨[], .nil (.plain hplain)⟩
  | case7 arg args _ body hbody _ name inline hname hknown on hon ih =>
      obtain ⟨form, hkind, hsetting, hmore, hbehind⟩ := exists_form_of_switchValue? hon
      rw [← hsetting] at h
      have hstep := exists_written_cons hbody hname form (by rw [hknown, hkind]) hbehind ih h
      rwa [hmore] at hstep
  | case9 arg args _ body hbody _ name hknown value hname ih =>
      exact exists_written_cons hbody hname (.inline value) hknown rfl ih h
  | case11 arg _ body hbody _ name hknown value args hname ih =>
      exact exists_written_cons hbody hname (.separate value) hknown rfl ih h
  | case5 | case6 | case8 | case10 => cases h

/-- **What is read is what was written.** -/
theorem read_eq_ok_iff {known : List (Text × Kind)} (hnames : ∀ flag ∈ known, IsName flag.1)
    {args : List Text} {flags : Flags} :
    read known args = .ok flags ↔ ∃ written, Spells known written args flags := by
  refine ⟨exists_written, ?_⟩
  rintro ⟨written, hknown, hsettings, ending, hends, rfl⟩
  induction written generalizing flags with
  | nil =>
      obtain ⟨settings, rest⟩ := flags
      cases hsettings
      exact read_ending known hends
  | cons w written ih =>
      obtain ⟨settings, rest⟩ := flags
      cases hsettings
      obtain ⟨hw, hwritten⟩ := List.forall_mem_cons.mp hknown
      have hname : IsName w.name := by
        obtain ⟨_, _, rfl, _⟩ := List.lookup_eq_some_iff.mp hw
        exact hnames (w.name, w.form.kind) (by simp)
      have hrest : read known (written.flatMap Written.args ++ ending) =
          .ok ⟨written.map Written.entry, rest⟩ := ih hwritten rfl hends
      rw [List.flatMap_cons, List.append_assoc, read_written hname hw, hrest]
      rfl

/-! ### What flags are set to -/

/-- What a command sees of a flag with a setting, or of one that is not set. -/
def Shows (flags : Flags) (name : Text) : Option Setting → Prop
  | none => flags.setting? name = none ∧ flags.isOn name = false ∧ flags.value? name = none
  | some (.switch on) => flags.isOn name = on ∧ flags.value? name = none
  | some (.value text) => flags.isOn name = false ∧ flags.value? name = some text

theorem shows_setting? (flags : Flags) (name : Text) :
    flags.Shows name (flags.setting? name) := by
  unfold Shows isOn value?
  rcases flags.setting? name with _ | on | text
  · exact ⟨rfl, rfl, rfl⟩
  · exact ⟨rfl, rfl⟩
  · exact ⟨rfl, rfl⟩

namespace Spells

variable {known : List (Text × Kind)} {written : List Written} {args : List Text} {flags : Flags}

/-- A flag has the value of its last setting. -/
theorem shows_last (h : Spells known written args flags) {before after : List Written}
    {w : Written} (hwritten : written = before ++ w :: after)
    (hlast : ∀ later ∈ after, later.name ≠ w.name) :
    flags.Shows w.name (some w.form.setting) := by
  have hsetting : flags.setting? w.name = some w.form.setting := by
    unfold setting?
    rw [h.settings, hwritten, List.lookup_eq_some_iff]
    refine ⟨(after.map Written.entry).reverse, (before.map Written.entry).reverse, by
      simp [Written.entry], fun entry hentry => ?_⟩
    obtain ⟨later, hlater, rfl⟩ := List.mem_map.mp (List.mem_reverse.mp hentry)
    simpa [Written.entry] using (hlast later hlater).symm
  rw [← hsetting]
  exact shows_setting? flags w.name

/-- A flag without a setting is not set. -/
theorem shows_none (h : Spells known written args flags) {name : Text}
    (hunset : ∀ w ∈ written, w.name ≠ name) : flags.Shows name none := by
  have hsetting : flags.setting? name = none := by
    unfold setting?
    rw [h.settings, List.lookup_eq_none_iff]
    intro entry hentry
    obtain ⟨w, hw, rfl⟩ := List.mem_map.mp (List.mem_reverse.mp hentry)
    simpa [Written.entry] using (hunset w hw).symm
  rw [← hsetting]
  exact shows_setting? flags name

end Spells

theorem parse_eq_ok_iff (command usage : Text) {known : List (Text × Kind)} {args : List Text}
    {flags : Flags} : parse command usage known args = .ok flags ↔ read known args = .ok flags := by
  unfold parse
  cases read known args <;> simp [Except.mapError]

/-- **Reading flags inverts writing them.** Let the flags of a command have names that are not
empty, have no `=` in them and do not begin with a dash. Then settings of these flags, each in any
of the forms that its flag takes, are read wherever flags end behind them: each flag has the value
of its last setting, a flag without one is not set, and what is left is the rest. Whatever else is
read was written so: what is left is an end of the arguments, and in front of it there are settings
with at most one mark behind them. -/
theorem reading_inverts_writing (command usage : Text) {known : List (Text × Kind)}
    (hnames : ∀ flag ∈ known, IsName flag.1) :
    (∀ (written : List Written) (rest ending : List Text), (∀ w ∈ written, w.IsOf known) →
      Ends rest ending →
      ∃ flags, parse command usage known (written.flatMap Written.args ++ ending) = .ok flags ∧
        flags.rest = rest ∧
        (∀ before w after, written = before ++ w :: after →
          (∀ later ∈ after, later.name ≠ w.name) → flags.Shows w.name (some w.form.setting)) ∧
        ∀ name, (∀ w ∈ written, w.name ≠ name) → flags.Shows name none) ∧
    ∀ (args : List Text) (flags : Flags), parse command usage known args = .ok flags →
      flags.rest <:+ args ∧
      ∃ (written : List Written) (ending : List Text), (∀ w ∈ written, w.IsOf known) ∧
        Ends flags.rest ending ∧ args = written.flatMap Written.args ++ ending := by
  constructor
  · intro written rest ending hknown hends
    have hspells : Spells known written (written.flatMap Written.args ++ ending)
        ⟨written.map Written.entry, rest⟩ := ⟨hknown, rfl, ending, hends, rfl⟩
    refine ⟨_, (parse_eq_ok_iff command usage).mpr ((read_eq_ok_iff hnames).mpr ⟨_, hspells⟩), rfl,
      fun before w after hwritten hlast => hspells.shows_last hwritten hlast,
      fun name hunset => hspells.shows_none hunset⟩
  · intro args flags hparse
    obtain ⟨written, hknown, -, ending, hends, rfl⟩ :=
      (read_eq_ok_iff hnames).mp ((parse_eq_ok_iff command usage).mp hparse)
    exact ⟨hends.isSuffix.trans (List.suffix_append _ _), written, ending, hknown, hends, rfl⟩

/-- A switch that is turned on and off again, a value that is the mark of the end, another one that
begins with `=`, and a rest that looks like a flag. -/
theorem reading_inverts_writing_marked :
    ∃ flags, parse "l-var" "l-var name" [("mut", .switch), ("fd", .valued)]
        ["--mut", "-fd", "--", "--mut=0", "-fd==x", "--", "--mut"] = .ok flags ∧
      flags.rest = ["--mut"] ∧ flags.isOn "mut" = false ∧ flags.value? "fd" = some "=x" ∧
      flags.value? "global" = none := by
  have hnames : ∀ flag ∈ [(("mut" : Text), Kind.switch), ("fd", .valued)], IsName flag.1 := by
    simp only [List.forall_mem_cons]
    exact ⟨⟨by decide, by decide, by decide⟩, ⟨by decide, by decide, by decide⟩,
      fun _ hmem => absurd hmem List.not_mem_nil⟩
  obtain ⟨flags, hparse, hrest, hlast, hunset⟩ :=
    (reading_inverts_writing "l-var" "l-var name" hnames).1
      [⟨.two, "mut", .alone⟩, ⟨.one, "fd", .separate "--"⟩, ⟨.two, "mut", .explicit .zero⟩,
        ⟨.one, "fd", .inline "=x"⟩] ["--mut"] ("--" :: ["--mut"])
      (by unfold Written.IsOf; decide) .marked
  have hswitch := hlast [⟨.two, "mut", .alone⟩, ⟨.one, "fd", .separate "--"⟩] _ _ rfl (by decide)
  have hvalue := hlast [⟨.two, "mut", .alone⟩, ⟨.one, "fd", .separate "--"⟩,
    ⟨.two, "mut", .explicit .zero⟩] _ _ rfl (by decide)
  exact ⟨flags, hparse, hrest, hswitch.1, hvalue.2, (hunset "global" (by decide)).2.2⟩

end Conch.Flags
