import MediaTags.Normalize
import MediaTags.Proofs.Text.Blank

/-!
# The last usable value stays

Each entry feeds at most one field, and only with a usable value. After all entries a field holds
what it was fed last. A date in two parts is put together from the last of each part, and only
where no entry gave a whole date.
-/

namespace MediaTags

/-- What was fed last, or else what there was at the start. -/
def lastFed {α β : Type} (feeds : α → Option β) (entries : List α) (start : β) : β :=
  (entries.filterMap feeds).getLast?.getD start

@[simp] theorem lastFed_nil {α β : Type} (feeds : α → Option β) (start : β) :
    lastFed feeds [] start = start := rfl

theorem lastFed_cons {α β : Type} (feeds : α → Option β) (e : α) (entries : List α) (start : β) :
    lastFed feeds (e :: entries) start = lastFed feeds entries ((feeds e).getD start) := by
  cases h : feeds e with
  | none => simp [lastFed, h]
  | some b => simp [lastFed, h, List.getLast?_cons]

/-- A list, unless it is empty. -/
def nonempty? {α : Type} (l : List α) : Option (List α) := if l.isEmpty then none else some l

/-- What a fold keeps of its state, if each step either sets it or leaves it alone. -/
theorem get_foldl {σ α β : Type} {step : σ → α → σ} {feeds : α → Option β} (get : σ → β)
    (h : ∀ s e, get (step s e) = (feeds e).getD (get s)) (entries : List α) (s : σ) :
    get (entries.foldl step s) = lastFed feeds entries (get s) := by
  induction entries generalizing s with
  | nil => rfl
  | cons e entries ih => rw [List.foldl_cons, ih, h, lastFed_cons]

namespace Update

def text? (f : TextField) : Update → Option String
  | .text g value => if g = f then Text.present? value else none
  | _ => none

def list? (f : ListField) : Update → Option (List String)
  | .list g values => if g = f then nonempty? values else none
  | _ => none

def number? (f : NumberField) : Update → Option Nat
  | .number g n => if g = f then some n else none
  | _ => none

def flag? : Update → Option Bool
  | .compilation b => some b
  | _ => none

def credits? : Update → Option (List (String × List String))
  | .credits pairs => some pairs
  | _ => none

end Update

/-- Credit people with roles, one pair after the other. -/
def Credit.addAll (pairs : List (String × List String)) (credits : List Credit) : List Credit :=
  pairs.foldl (fun cs p => Credit.add p.1 p.2 cs) credits

namespace Tag

/-- Two tags say the same about everything that entries say nothing about. -/
structure SameFacts (t u : Tag) : Prop where
  duration : t.duration = u.duration
  bitRate : t.bitRate = u.bitRate
  sampleRate : t.sampleRate = u.sampleRate
  bitsPerSample : t.bitsPerSample = u.bitsPerSample
  channels : t.channels = u.channels
  codec : t.codec = u.codec
  loaded : t.loaded = u.loaded
  art : t.art = u.art

theorem SameFacts.refl (t : Tag) : SameFacts t t := by constructor <;> rfl

theorem SameFacts.symm {t u : Tag} (h : SameFacts t u) : SameFacts u t := by
  cases h
  constructor <;> simp_all

theorem SameFacts.trans {t u v : Tag} (h : SameFacts t u) (g : SameFacts u v) : SameFacts t v := by
  cases h
  cases g
  constructor <;> simp_all

theorem sameFacts_putText (t : Tag) (f : TextField) (s : String) :
    SameFacts (t.putText f s) t := by
  cases f <;> constructor <;> rfl

theorem sameFacts_putList (t : Tag) (f : ListField) (l : List String) :
    SameFacts (t.putList f l) t := by
  cases f <;> constructor <;> rfl

theorem sameFacts_putNumber (t : Tag) (f : NumberField) (n : Nat) :
    SameFacts (t.putNumber f n) t := by
  cases f <;> constructor <;> rfl

@[simp] theorem compilation_putText (t : Tag) (f : TextField) (s : String) :
    (t.putText f s).compilation = t.compilation := by
  cases f <;> rfl

@[simp] theorem compilation_putList (t : Tag) (f : ListField) (l : List String) :
    (t.putList f l).compilation = t.compilation := by
  cases f <;> rfl

@[simp] theorem compilation_putNumber (t : Tag) (f : NumberField) (n : Nat) :
    (t.putNumber f n).compilation = t.compilation := by
  cases f <;> rfl

@[simp] theorem credits_putText (t : Tag) (f : TextField) (s : String) :
    (t.putText f s).credits = t.credits := by
  cases f <;> rfl

@[simp] theorem credits_putList (t : Tag) (f : ListField) (l : List String) :
    (t.putList f l).credits = t.credits := by
  cases f <;> rfl

@[simp] theorem credits_putNumber (t : Tag) (f : NumberField) (n : Nat) :
    (t.putNumber f n).credits = t.credits := by
  cases f <;> rfl

/-- Crediting people touches nothing but the credits. -/
theorem foldl_credit (t : Tag) (pairs : List (String × List String)) :
    pairs.foldl (fun t p => t.credit p.1 p.2) t =
      { t with credits := Credit.addAll pairs t.credits } := by
  induction pairs generalizing t with
  | nil => rfl
  | cons p pairs ih => rw [List.foldl_cons, ih]; rfl

theorem text_apply (f : TextField) (t : Tag) (u : Update) :
    (t.apply u).text f = (u.text? f).getD (t.text f) := by
  cases u with
  | text g value =>
    simp only [apply, setText, Update.text?]
    cases Text.present? value with
    | none => simp
    | some s => by_cases h : g = f <;> simp [h]
  | list g values =>
    simp only [apply, setList, Update.text?]
    split <;> simp
  | credits pairs => rw [apply, foldl_credit]; cases f <;> rfl
  | number g n => simp [apply, Update.text?]
  | compilation b => cases f <;> rfl
  | year | dayMonth => rfl

theorem list_apply (f : ListField) (t : Tag) (u : Update) :
    (t.apply u).list f = (u.list? f).getD (t.list f) := by
  cases u with
  | text g value =>
    simp only [apply, setText, Update.list?]
    split <;> simp
  | list g values =>
    simp only [apply, setList, Update.list?]
    by_cases hv : values.isEmpty <;> by_cases h : g = f <;> simp [nonempty?, hv, h]
  | credits pairs => rw [apply, foldl_credit]; cases f <;> rfl
  | number g n => simp [apply, Update.list?]
  | compilation b => cases f <;> rfl
  | year | dayMonth => rfl

theorem number_apply (f : NumberField) (t : Tag) (u : Update) :
    (t.apply u).number f = (u.number? f).getD (t.number f) := by
  cases u with
  | text g value =>
    simp only [apply, setText, Update.number?]
    split <;> simp
  | list g values =>
    simp only [apply, setList, Update.number?]
    split <;> simp
  | credits pairs => rw [apply, foldl_credit]; cases f <;> rfl
  | number g n => by_cases h : g = f <;> simp [apply, Update.number?, h]
  | compilation b => cases f <;> rfl
  | year | dayMonth => rfl

theorem compilation_apply (t : Tag) (u : Update) :
    (t.apply u).compilation = u.flag?.getD t.compilation := by
  cases u with
  | text g value =>
    simp only [apply, setText, Update.flag?]
    split <;> simp
  | list g values =>
    simp only [apply, setList, Update.flag?]
    split <;> simp
  | credits pairs => rw [apply, foldl_credit]; rfl
  | number g n => simp [apply, Update.flag?]
  | compilation | year | dayMonth => rfl

theorem credits_apply (t : Tag) (u : Update) :
    (t.apply u).credits = Credit.addAll (u.credits?.getD []) t.credits := by
  cases u with
  | text g value =>
    simp only [apply, setText, Update.credits?]
    split <;> simp [Credit.addAll]
  | list g values =>
    simp only [apply, setList, Update.credits?]
    split <;> simp [Credit.addAll]
  | credits pairs => rw [apply, foldl_credit]; rfl
  | number g n => simp [apply, Update.credits?, Credit.addAll]
  | compilation | year | dayMonth => rfl

theorem sameFacts_apply (t : Tag) (u : Update) : SameFacts (t.apply u) t := by
  cases u with
  | text g value =>
    simp only [apply, setText]
    split
    · exact sameFacts_putText ..
    · exact .refl t
  | list g values =>
    simp only [apply, setList]
    split
    · exact .refl t
    · exact sameFacts_putList ..
  | credits pairs => rw [apply, foldl_credit]; constructor <;> rfl
  | number g n => exact sameFacts_putNumber ..
  | compilation | year | dayMonth => constructor <;> rfl

theorem credits_foldl_apply (t : Tag) (us : List Update) :
    (us.foldl apply t).credits =
      Credit.addAll (us.filterMap Update.credits?).flatten t.credits := by
  induction us generalizing t with
  | nil => rfl
  | cons u us ih =>
    rw [List.foldl_cons, ih, credits_apply]
    cases h : u.credits? <;> simp [h, Credit.addAll]

theorem sameFacts_foldl_apply (t : Tag) (us : List Update) : SameFacts (us.foldl apply t) t := by
  induction us generalizing t with
  | nil => exact .refl t
  | cons u us ih => exact (ih _).trans (sameFacts_apply t u)

theorem fillDate_eq (t : Tag) (date : Option String) :
    t.fillDate date =
      { t with releaseDate := if t.releaseDate = "" then date.getD "" else t.releaseDate } := by
  by_cases h : t.releaseDate = ""
  · cases date with
    | none => cases t; simp_all [fillDate]
    | some d => simp [fillDate, h]
  · cases date <;> simp [fillDate, h]

end Tag

namespace Separators

variable (s : Separators) (scope : Scope)

/-- What the key of an entry means. -/
def meaning? (e : Entry) : Option Meaning :=
  Vocabulary.lookup (Vocabulary.canonicalKey e.key) scope

/-- What an entry feeds a text field: its value, trimmed, if that is not blank. -/
def textFed? (f : TextField) (e : Entry) : Option String :=
  match meaning? scope e with
  | some (.text g) => if g = f then Text.present? e.value else none
  | some (.joined g) => if g = f then Text.present? (s.rejoin e.value) else none
  | _ => none

/-- What an entry feeds a list field: the pieces of its value, if there are any. Genres are cut
at commas as well. -/
def listFed? (f : ListField) (e : Entry) : Option (List String) :=
  match meaning? scope e with
  | some (.list g) =>
    if g = f then
      nonempty? (if g = .genres then s.splitWith e.value [","] else s.split e.value)
    else none
  | _ => none

/-- What an entry feeds a number field: the leading number of its value. -/
def numberFed? (scope : Scope) (f : NumberField) (e : Entry) : Option Nat :=
  match meaning? scope e with
  | some (.number g) => if g = f then Text.leadingNumber? e.value else none
  | _ => none

/-- What an entry feeds the flag of compilations. In a file that holds a set of items the key
alone counts. -/
def flagFed? (e : Entry) : Option Bool :=
  match meaning? scope e with
  | some .flag => if scope.isFile then parseFlag? e.value else some true
  | _ => none

/-- The people that an entry credits, by role. -/
def creditsFed? (e : Entry) : Option (List (String × List String)) :=
  match meaning? scope e with
  | some (.role name) => some [(name, s.split e.value)]
  | some .roleList => some (s.roleCredits e.value)
  | _ => none

/-- The year of a well-formed `TYER` entry. -/
def yearFed? (e : Entry) : Option String :=
  if scope.isFile ∧ Vocabulary.canonicalKey e.key = "TYER" then yearOf? e.value else none

/-- The day and the month of a well-formed `TDAT` entry. -/
def dayMonthFed? (e : Entry) : Option (String × String) :=
  if scope.isFile ∧ Vocabulary.canonicalKey e.key = "TDAT" then dayMonthOf? e.value else none

/-- The date that the last year and the last day and month make; a year may stand alone. -/
def dateFed? (entries : List Entry) : Option String :=
  ((entries.filterMap (yearFed? scope)).getLast?).map fun year =>
    match (entries.filterMap (dayMonthFed? scope)).getLast? with
    | some (day, month) => year ++ "-" ++ month ++ "-" ++ day
    | none => year

end Separators

namespace Vocabulary

theorem exists_row_of_lookup {key : String} {scope : Scope} {m : Meaning}
    (h : lookup key scope = some m) :
    ∃ row ∈ table, row.key = key ∧ scope ∈ row.scopes ∧ row.meaning = m := by
  obtain ⟨row, hrow, hm⟩ := Option.map_eq_some_iff.1 h
  have hfound := List.find?_some hrow
  simp only [Bool.and_eq_true, beq_iff_eq, List.contains_iff_mem] at hfound
  exact ⟨row, List.mem_of_find?_eq_some hrow, hfound.1, hfound.2, hm⟩

/-- The key of a part of a date. -/
def dateKey : DatePart → String
  | .year => "TYER"
  | .dayMonth => "TDAT"

/-- Each part of a date has one key, and only in files with a single item. -/
theorem lookup_eq_partialDate_iff (key : String) (scope : Scope) (part : DatePart) :
    lookup key scope = some (.partialDate part) ↔ scope.isFile ∧ key = dateKey part := by
  constructor
  · intro h
    obtain ⟨row, hrow, rfl, hscope, hm⟩ := exists_row_of_lookup h
    have hrows : ∀ part, ∀ row ∈ table, row.meaning = .partialDate part →
        row.scopes = Scope.file ∧ row.key = dateKey part := by
      rintro (_ | _) <;> decide
    obtain ⟨hscopes, hkey⟩ := hrows part row hrow hm
    exact ⟨by simpa [hscopes, Scope.isFile] using hscope, hkey⟩
  · rintro ⟨hs, rfl⟩
    cases scope <;> cases part <;> first | exact absurd hs (by decide) | decide

end Vocabulary

namespace Separators

variable (s : Separators) (scope : Scope)

/-- The update that a value makes under a meaning, if it is of use. -/
def use? (value : String) : Meaning → Option Update
  | .text f => (Text.present? value).map (.text f)
  | .joined f => (Text.present? (s.rejoin value)).map (.text f)
  | .list f =>
    (nonempty? (if f = .genres then s.splitWith value [","] else s.split value)).map (.list f)
  | .number f => (Text.leadingNumber? value).map (.number f)
  | .flag => (if scope.isFile then parseFlag? value else some true).map .compilation
  | .role name => some (.credits [(name, s.split value)])
  | .roleList => some (.credits (s.roleCredits value))
  | .partialDate .year => (yearOf? value).map .year
  | .partialDate .dayMonth => (dayMonthOf? value).map fun p => .dayMonth p.1 p.2
  | .ignored => none

theorem toOption_interpret (key value : String) (m : Meaning) :
    (s.interpret scope key value m).toOption.join = s.use? scope value m := by
  cases m with
  | list f =>
    simp only [interpret, use?, nonempty?, Except.toOption, Option.join_some]
    split <;> split <;> rfl
  | number f =>
    simp only [interpret, use?]
    cases Text.leadingNumber? value <;> rfl
  | flag =>
    simp only [interpret, use?]
    split
    · cases parseFlag? value <;> rfl
    · rfl
  | partialDate part =>
    cases part <;> simp only [interpret, use?, Except.toOption, Option.join_some]
  | text | joined | role | roleList | ignored => rfl

/-- The update that an entry makes, if it is of use. -/
def update? (e : Entry) : Option Update := (meaning? scope e).bind (s.use? scope e.value)

theorem updates_eq (entries : List Entry) :
    s.updates scope entries = entries.filterMap (s.update? scope) := by
  unfold updates
  congr 1
  funext e
  simp only [readEntry, update?, meaning?]
  cases Vocabulary.lookup (Vocabulary.canonicalKey e.key) scope with
  | none => rfl
  | some m =>
    simp only [Option.bind_some, ← toOption_interpret s scope (Vocabulary.canonicalKey e.key)]
    cases s.interpret scope (Vocabulary.canonicalKey e.key) e.value m <;> rfl

theorem bind_present? (value : String) (f g : TextField) :
    ((Text.present? value).map (Update.text g)).bind (Update.text? f) =
      if g = f then Text.present? value else none := by
  cases h : Text.present? value with
  | none => simp
  | some v => simp [Update.text?, Text.present?_of_present? h]

theorem bind_nonempty? (values : List String) (f g : ListField) :
    ((nonempty? values).map (Update.list g)).bind (Update.list? f) =
      if g = f then nonempty? values else none := by
  cases values <;> simp [nonempty?, Update.list?]

theorem textFed?_eq (f : TextField) (e : Entry) :
    s.textFed? scope f e = (s.update? scope e).bind (Update.text? f) := by
  simp only [textFed?, update?]
  cases meaning? scope e with
  | none => rfl
  | some m =>
    cases m with
    | text | joined => simp [use?, bind_present?]
    | partialDate part =>
      cases part <;> simp [use?, Update.text?, Option.bind_map, Function.comp_def]
    | _ => simp [use?, Update.text?, Option.bind_map, Function.comp_def]

theorem listFed?_eq (f : ListField) (e : Entry) :
    s.listFed? scope f e = (s.update? scope e).bind (Update.list? f) := by
  simp only [listFed?, update?]
  cases meaning? scope e with
  | none => rfl
  | some m =>
    cases m with
    | list => simp [use?, bind_nonempty?]
    | partialDate part =>
      cases part <;> simp [use?, Update.list?, Option.bind_map, Function.comp_def]
    | _ => simp [use?, Update.list?, Option.bind_map, Function.comp_def]

theorem numberFed?_eq (f : NumberField) (e : Entry) :
    numberFed? scope f e = (s.update? scope e).bind (Update.number? f) := by
  simp only [numberFed?, update?]
  cases meaning? scope e with
  | none => rfl
  | some m =>
    cases m with
    | number g =>
      by_cases h : g = f <;>
        simp [use?, Update.number?, Option.bind_map, Function.comp_def, h]
    | partialDate part =>
      cases part <;> simp [use?, Update.number?, Option.bind_map, Function.comp_def]
    | _ => simp [use?, Update.number?, Option.bind_map, Function.comp_def]

theorem flagFed?_eq (e : Entry) :
    flagFed? scope e = (s.update? scope e).bind Update.flag? := by
  simp only [flagFed?, update?]
  cases meaning? scope e with
  | none => rfl
  | some m =>
    cases m with
    | partialDate part =>
      cases part <;> simp [use?, Update.flag?, Option.bind_map, Function.comp_def]
    | _ => simp [use?, Update.flag?, Option.bind_map, Function.comp_def]

theorem creditsFed?_eq (e : Entry) :
    s.creditsFed? scope e = (s.update? scope e).bind Update.credits? := by
  simp only [creditsFed?, update?]
  cases meaning? scope e with
  | none => rfl
  | some m =>
    cases m with
    | partialDate part =>
      cases part <;> simp [use?, Update.credits?, Option.bind_map, Function.comp_def]
    | _ => simp [use?, Update.credits?, Option.bind_map, Function.comp_def]

theorem yearFed?_eq (e : Entry) :
    yearFed? scope e = (s.update? scope e).bind Update.year? := by
  have hiff : scope.isFile ∧ Vocabulary.canonicalKey e.key = "TYER" ↔
      meaning? scope e = some (.partialDate .year) :=
    (Vocabulary.lookup_eq_partialDate_iff _ scope .year).symm
  simp only [yearFed?, hiff, update?]
  cases meaning? scope e with
  | none => rfl
  | some m =>
    cases m with
    | partialDate part =>
      cases part <;> simp [use?, Update.year?, Option.bind_map, Function.comp_def]
    | _ => simp [use?, Update.year?, Option.bind_map, Function.comp_def]

theorem dayMonthFed?_eq (e : Entry) :
    dayMonthFed? scope e = (s.update? scope e).bind Update.dayMonth? := by
  have hiff : scope.isFile ∧ Vocabulary.canonicalKey e.key = "TDAT" ↔
      meaning? scope e = some (.partialDate .dayMonth) :=
    (Vocabulary.lookup_eq_partialDate_iff _ scope .dayMonth).symm
  simp only [dayMonthFed?, hiff, update?]
  cases meaning? scope e with
  | none => rfl
  | some m =>
    cases m with
    | partialDate part =>
      cases part <;> simp [use?, Update.dayMonth?, Option.bind_map, Function.comp_def]
    | _ => simp [use?, Update.dayMonth?, Option.bind_map, Function.comp_def]

/-- What a list of updates feeds a field is what its entries feed it. -/
theorem filterMap_updates {β : Type} {view : Update → Option β} {feeds : Entry → Option β}
    (h : ∀ e, feeds e = (s.update? scope e).bind view) (entries : List Entry) :
    (s.updates scope entries).filterMap view = entries.filterMap feeds := by
  rw [updates_eq, List.filterMap_filterMap]
  exact List.filterMap_congr fun e _ => (h e).symm

theorem lastFed_updates {β : Type} {view : Update → Option β} {feeds : Entry → Option β}
    (h : ∀ e, feeds e = (s.update? scope e).bind view) (entries : List Entry) (start : β) :
    lastFed view (s.updates scope entries) start = lastFed feeds entries start := by
  rw [lastFed, filterMap_updates s scope h, lastFed]

theorem splitDate?_updates (entries : List Entry) :
    Update.splitDate? (s.updates scope entries) = dateFed? scope entries := by
  rw [Update.splitDate?, filterMap_updates s scope (yearFed?_eq s scope),
    filterMap_updates s scope (dayMonthFed?_eq s scope), dateFed?]
  cases (entries.filterMap (yearFed? scope)).getLast? with
  | none => rfl
  | some y => cases (entries.filterMap (dayMonthFed? scope)).getLast? <;> rfl

end Separators

namespace Tag

/-- Every field ends up with the value it was fed last, or keeps what it had. A release date that
is still missing is put together from the last parts of one. Nothing else changes. -/
theorem normalize_eq_lastFed (t : Tag) (s : Separators) (scope : Scope) (entries : List Entry) :
    let r := t.normalize s scope entries
    let date := lastFed (s.textFed? scope .releaseDate) entries t.releaseDate
    (∀ f, f ≠ .releaseDate → r.text f = lastFed (s.textFed? scope f) entries (t.text f)) ∧
    (∀ f, r.list f = lastFed (s.listFed? scope f) entries (t.list f)) ∧
    (∀ f, r.number f = lastFed (Separators.numberFed? scope f) entries (t.number f)) ∧
    r.compilation = lastFed (Separators.flagFed? scope) entries t.compilation ∧
    r.credits = Credit.addAll (entries.filterMap (s.creditsFed? scope)).flatten t.credits ∧
    r.releaseDate = (if date = "" then (Separators.dateFed? scope entries).getD "" else date) ∧
    r.SameFacts t := by
  intro r date
  set u := (s.updates scope entries).foldl apply t with hu
  have hr : r = u.fillDate (Separators.dateFed? scope entries) := by
    rw [← s.splitDate?_updates]
    rfl
  have htext (f : TextField) : u.text f = lastFed (s.textFed? scope f) entries (t.text f) := by
    rw [← s.lastFed_updates scope (s.textFed?_eq scope f)]
    exact get_foldl (·.text f) (text_apply f) _ t
  have hlist (f : ListField) : u.list f = lastFed (s.listFed? scope f) entries (t.list f) := by
    rw [← s.lastFed_updates scope (s.listFed?_eq scope f)]
    exact get_foldl (·.list f) (list_apply f) _ t
  have hnumber (f : NumberField) :
      u.number f = lastFed (Separators.numberFed? scope f) entries (t.number f) := by
    rw [← s.lastFed_updates scope (s.numberFed?_eq scope f)]
    exact get_foldl (·.number f) (number_apply f) _ t
  have hflag : u.compilation = lastFed (Separators.flagFed? scope) entries t.compilation := by
    rw [← s.lastFed_updates scope (s.flagFed?_eq scope)]
    exact get_foldl (·.compilation) compilation_apply _ t
  have hcredits :
      u.credits = Credit.addAll (entries.filterMap (s.creditsFed? scope)).flatten t.credits := by
    rw [← s.filterMap_updates scope (s.creditsFed?_eq scope)]
    exact credits_foldl_apply t _
  have hdate : u.releaseDate = date := htext .releaseDate
  have hfacts : u.SameFacts t := sameFacts_foldl_apply t _
  rw [fillDate_eq, hdate] at hr
  rw [hr]
  refine ⟨?_, ?_, ?_, hflag, hcredits, rfl, .trans (by constructor <;> rfl) hfacts⟩
  · intro f hf
    rw [← htext]
    cases f <;> first | rfl | exact absurd rfl hf
  · intro f
    rw [← hlist]
    cases f <;> rfl
  · intro f
    rw [← hnumber]
    cases f <;> rfl

end Tag

end MediaTags
