import EditorLink.CommandLine.Plan
import EditorLink.Proofs.Document.Places
import EditorLink.Proofs.Number.Overflow
/-!
# Rejected options

Options are read in turn: their names, the features, the folders and the timeout. Nearly
every mistake in them ends in an error that the user is told about. This tells which
mistakes nobody thought of.
-/
namespace EditorLink

/-! ## Breaking off -/

namespace OptionsError
variable {α β : Type}

/-- Whether reading something breaks off with an error that nobody thought of. -/
def BreaksOff (r : Except OptionsError α) : Prop := ∃ e, r = .error e ∧ e.isAnticipated = false

@[simp] theorem not_breaksOff_ok (a : α) : ¬BreaksOff (.ok a) := by
  rintro ⟨e, h, -⟩
  cases h

@[simp] theorem breaksOff_error (e : OptionsError) :
    BreaksOff (.error e : Except OptionsError α) ↔ e.isAnticipated = false := by
  constructor
  · rintro ⟨e', h, he⟩
    cases h
    exact he
  · exact fun he => ⟨e, rfl, he⟩

theorem breaksOff_bind (r : Except OptionsError α) (f : α → Except OptionsError β) :
    BreaksOff (r >>= f) ↔ BreaksOff r ∨ ∃ a, r = .ok a ∧ BreaksOff (f a) := by
  cases r with
  | error e => simp [bind, Except.bind]
  | ok a => simp [bind, Except.bind]

theorem breaksOff_map (r : Except OptionsError α) (f : α → β) :
    BreaksOff (r.map f) ↔ BreaksOff r := by
  cases r <;> simp [Except.map]

/-- Reading several things breaks off at the first one that does. -/
theorem breaksOff_mapM (f : α → Except OptionsError β) (l : List α) :
    BreaksOff (l.mapM f) ↔ ∃ before a after, l = before ++ a :: after ∧
      (∀ b ∈ before, ∃ c, f b = .ok c) ∧ BreaksOff (f a) := by
  induction l with
  | nil => simp [pure, Except.pure]
  | cons x rest ih =>
    rw [List.mapM_cons, breaksOff_bind]
    simp only [breaksOff_bind, ih, pure, Except.pure, not_breaksOff_ok, and_false, exists_false,
      or_false]
    constructor
    · rintro (hx | ⟨c, hc, before, a, after, rfl, hbefore, ha⟩)
      · exact ⟨[], x, rest, rfl, by simp, hx⟩
      · exact ⟨x :: before, a, after, rfl, List.forall_mem_cons.mpr ⟨⟨c, hc⟩, hbefore⟩, ha⟩
    · rintro ⟨_ | ⟨b, before⟩, a, after, heq, hbefore, ha⟩
      · cases heq
        exact .inl ha
      · cases heq
        obtain ⟨⟨c, hc⟩, hrest⟩ := List.forall_mem_cons.mp hbefore
        exact .inr ⟨c, hc, before, a, after, rfl, hrest, ha⟩

end OptionsError

namespace Options
open OptionsError Value

/-! ## Names -/

/-- Whether the keys of a mapping are texts. -/
def HasTextKeys (entries : List (Value × Value)) : Prop :=
  ∀ entry ∈ entries, ∃ name, entry.1 = .text name

/-- Whether a mapping has no keys but some names. -/
def HasOnly (known : List String) (entries : List (Value × Value)) : Prop :=
  ∀ entry ∈ entries, ∃ name ∈ known, entry.1 = .text name

variable {part : String} {known : List String} {entries : List (Value × Value)}

theorem mem_strangers {key : Value} :
    key ∈ strangers known entries ↔
      (∃ entry ∈ entries, entry.1 = key) ∧ ¬∃ name ∈ known, key = .text name := by
  rw [strangers, List.mem_filter, List.mem_map]
  refine and_congr_right fun _ => ?_
  cases key <;> simp

theorem strangers_eq_nil : strangers known entries = [] ↔ HasOnly known entries := by
  rw [List.eq_nil_iff_forall_not_mem]
  constructor
  · intro hnone entry hentry
    by_contra hunknown
    exact hnone entry.1 (mem_strangers.mpr ⟨⟨entry, hentry, rfl⟩, hunknown⟩)
  · intro honly key hkey
    obtain ⟨⟨entry, hentry, rfl⟩, hunknown⟩ := mem_strangers.mp hkey
    exact hunknown (honly entry hentry)

theorem mapM_text?_eq_none {keys : List Value} :
    keys.mapM Value.text? = none ↔ ∃ key ∈ keys, ¬∃ name, key = .text name := by
  induction keys with
  | nil => simp
  | cons key rest ih =>
    rw [List.mapM_cons]
    simp only [List.exists_mem_cons_iff, ← ih]
    cases key with
    | text name => cases rest.mapM Value.text? <;> simp [Value.text?]
    | _ => simp [Value.text?]

/-- A key that is no text is never one of the known names. -/
theorem mapM_strangers_eq_none :
    (strangers known entries).mapM Value.text? = none ↔ ¬HasTextKeys entries := by
  rw [mapM_text?_eq_none, HasTextKeys]
  simp only [not_forall]
  constructor
  · rintro ⟨key, hkey, hnameless⟩
    obtain ⟨⟨entry, hentry, rfl⟩, -⟩ := mem_strangers.mp hkey
    exact ⟨entry, hentry, hnameless⟩
  · rintro ⟨entry, hentry, hnameless⟩
    refine ⟨entry.1, mem_strangers.mpr ⟨⟨entry, hentry, rfl⟩, ?_⟩, hnameless⟩
    exact fun ⟨name, _, hname⟩ => hnameless ⟨name, hname⟩

theorem checkKeys_ok : (∃ u, checkKeys part known entries = .ok u) ↔ HasOnly known entries := by
  rw [← strangers_eq_nil, checkKeys]
  split
  · next hnone => simp [hnone]
  · next hsome =>
    simp only [hsome, reduceCtorEq, iff_false]
    split
    · nofun
    · split <;> nofun

theorem breaksOff_checkKeys :
    BreaksOff (checkKeys part known entries) ↔ ¬HasTextKeys entries := by
  rw [← @mapM_strangers_eq_none known, checkKeys]
  split
  · next hnone => simp [hnone]
  · next hsome =>
    rw [hsome]
    split
    · next htexts => simp [htexts, isAnticipated]
    · next htexts =>
      simp only [htexts, iff_true]
      split <;> simp [isAnticipated]

/-! ## Features -/

/-- Whether features can be set: by a mapping without other names, or not at all. -/
def AreFeatures (v : Value) : Prop :=
  v.isTruthy → ∃ features, v = .mapping features ∧ HasOnly (Feature.all.map Feature.key) features

theorem readFeatures_ok {v : Value} : (∃ f, readFeatures v = .ok f) ↔ AreFeatures v := by
  rw [AreFeatures]
  cases v with
  | mapping features =>
    have hempty : (Value.mapping features).isTruthy = false →
        HasOnly (Feature.all.map Feature.key) features := by
      cases features with
      | nil => exact fun _ _ h => absurd h List.not_mem_nil
      | cons => nofun
    rw [readFeatures]
    cases hkeys : checkKeys "feature" (Feature.all.map Feature.key) features with
    | ok =>
      have honly := checkKeys_ok.mp ⟨_, hkeys⟩
      simpa [bind, Except.bind, pure, Except.pure] using fun _ => honly
    | error e =>
      have hother : ¬HasOnly (Feature.all.map Feature.key) features := fun honly => by
        obtain ⟨u, hu⟩ := checkKeys_ok.mpr honly
        rw [hu] at hkeys
        cases hkeys
      have htruthy := mt hempty hother
      simp [bind, Except.bind, htruthy, hother]
  | _ => simp only [readFeatures]; split <;> simp_all

theorem breaksOff_readFeatures {v : Value} :
    BreaksOff (readFeatures v) ↔ ∃ features, v = .mapping features ∧ ¬HasTextKeys features := by
  cases v with
  | mapping features =>
    rw [readFeatures, breaksOff_bind, breaksOff_checkKeys]
    simp [pure, Except.pure]
  | _ => simp only [readFeatures]; split <;> simp [isAnticipated]

/-! ## Folders -/

/-- Whether a value is a folder: its location is a text, and so is its name if it has one. -/
def IsFolder (v : Value) : Prop :=
  ∃ uri name, v.field? "uri" = some (.text uri) ∧ (v.field? "name").getD (.text uri) = .text name

/-- Whether something that cannot be shown stands where a folder should have its location,
or behind a good location where it should have its name. -/
def HidesInFolder (v : Value) : Prop :=
  (∃ location, v.field? "uri" = some location ∧ location.isShowable = false) ∨
    ∃ uri name, v.field? "uri" = some (.text uri) ∧ v.field? "name" = some name ∧
      name.isShowable = false

theorem readFolder_ok {v : Value} : (∃ f, readFolder v = .ok f) ↔ IsFolder v := by
  rw [IsFolder]
  cases v with
  | mapping entries =>
    simp only [readFolder]
    cases (Value.mapping entries).field? "uri" with
    | none => simp
    | some uri =>
      cases uri with
      | text uri =>
        cases hname : ((Value.mapping entries).field? "name").getD (.text uri) <;> simp [hname]
      | _ => simp
  | _ => simp [readFolder, Value.field?]

theorem isAnticipated_reject {v : Value} {e : OptionsError} (he : e.isAnticipated) :
    (reject v e).isAnticipated = false ↔ v.isShowable = false := by
  rw [reject]
  split
  · next hshowable => simp [he, hshowable]
  · next hhidden => simp [isAnticipated, hhidden]

theorem breaksOff_readFolder {v : Value} : BreaksOff (readFolder v) ↔ HidesInFolder v := by
  have hmalformed : malformedFolder.isAnticipated := rfl
  rw [HidesInFolder]
  cases v with
  | mapping entries =>
    simp only [readFolder]
    cases (Value.mapping entries).field? "uri" with
    | none => simp [isAnticipated]
    | some uri =>
      cases uri with
      | text uri =>
        cases (Value.mapping entries).field? "name" with
        | none => simp [Value.isShowable]
        | some name => cases name <;> simp [isAnticipated_reject hmalformed, Value.isShowable]
      | _ => simp [isAnticipated_reject hmalformed]
  | _ => simp [readFolder, Value.field?, isAnticipated]

/-- Whether a value can be read as folders. -/
def AreFolders : Value → Prop
  | .null => True
  | .list items => ∀ item ∈ items, IsFolder item
  | .text s => s = ""
  | .mapping entries => entries = []
  | .bytes bs => bs = []
  | .other _ _ isPresent => isPresent = false
  | _ => False

theorem readFolders_ok {v : Value} : (∃ f, readFolders v = .ok f) ↔ AreFolders v := by
  cases v with
  | list items =>
    simp only [AreFolders, ← readFolder_ok, ← exists_mapM_iff, readFolders]
    cases items.mapM readFolder <;> simp [Except.map]
  | other kind shown isPresent => cases isPresent <;> simp [readFolders, AreFolders]
  | text s => by_cases hs : s = "" <;> simp [readFolders, AreFolders, hs]
  | mapping entries => cases entries <;> simp [readFolders, AreFolders]
  | bytes bs => cases bs <;> simp [readFolders, AreFolders]
  | _ => simp [readFolders, AreFolders]

theorem breaksOff_readFolders {v : Value} :
    BreaksOff (readFolders v) ↔ ∃ before folder after, v = .list (before ++ folder :: after) ∧
      (∀ item ∈ before, IsFolder item) ∧ HidesInFolder folder := by
  cases v with
  | list items =>
    simp only [readFolders, breaksOff_map, breaksOff_mapM, readFolder_ok, breaksOff_readFolder,
      Value.list.injEq]
  | other kind shown isPresent => cases isPresent <;> simp [readFolders, isAnticipated]
  | text s => by_cases hs : s = "" <;> simp [readFolders, isAnticipated, hs]
  | mapping entries => cases entries <;> simp [readFolders, isAnticipated]
  | bytes bs => cases bs <;> simp [readFolders, isAnticipated]
  | _ => simp [readFolders, isAnticipated]

/-! ## Timeout -/

theorem breaksOff_readTimeout {v : Value} :
    BreaksOff (readTimeout v) ↔
      (∃ n : Int, v = .int n ∧ Number.IsTooLarge n) ∨ v.isShowable = false := by
  have hmalformed : (malformedTimeout v).isAnticipated := rfl
  cases v with
  | int n =>
    have hlarge : BreaksOff (readTimeout (.int n)) ↔ Number.IsTooLarge n := by
      rw [← Number.isInfinite_ofInt_iff, readTimeout]
      split
      · next h => simp [h, isAnticipated]
      · next h => simp [h]
    rw [hlarge]
    constructor
    · exact fun h => .inl ⟨n, rfl, h⟩
    · rintro (⟨m, hm, h⟩ | h)
      · cases hm
        exact h
      · exact Number.isTooLarge_of_not_isWritable h
  | text s => simp only [readTimeout]; split <;> simp [isAnticipated, Value.isShowable]
  | bytes bs => simp only [readTimeout]; split <;> simp [isAnticipated, Value.isShowable]
  | bool | float => simp [readTimeout, Value.isShowable]
  | _ => simp [readTimeout, isAnticipated_reject hmalformed]

/-! ## Everything -/

/-- What is wrong with options that nobody thought of: mistakes in what is read first hide
those in what is read later. -/
inductive IsUnforeseen (entries : List (Value × Value)) : Prop
  /-- A key is no text. -/
  | key (hkey : ¬HasTextKeys entries)
  /-- The key of a feature is no text. -/
  | feature (hnames : HasOnly names entries) (features : List (Value × Value))
    (hfeatures : (Value.mapping entries).field? "features" = some (.mapping features))
    (hkey : ¬HasTextKeys features)
  /-- The first folder that is not well formed has something in it that cannot be shown. -/
  | folder (hnames : HasOnly names entries)
    (hfeatures : AreFeatures (((Value.mapping entries).field? "features").getD .null))
    (before after : List Value) (folder : Value)
    (hfolders : (Value.mapping entries).field? "workspace_folders" =
      some (.list (before ++ folder :: after)))
    (hbefore : ∀ item ∈ before, IsFolder item) (hfolder : HidesInFolder folder)
  /-- The timeout is a whole number without a double. -/
  | timeout (hnames : HasOnly names entries)
    (hfeatures : AreFeatures (((Value.mapping entries).field? "features").getD .null))
    (hfolders : AreFolders (((Value.mapping entries).field? "workspace_folders").getD .null))
    (n : Int) (htimeout : (Value.mapping entries).field? "timeout" = some (.int n))
    (hlarge : Number.IsTooLarge n)
  /-- The timeout cannot be shown. -/
  | hiddenTimeout (hnames : HasOnly names entries)
    (hfeatures : AreFeatures (((Value.mapping entries).field? "features").getD .null))
    (hfolders : AreFolders (((Value.mapping entries).field? "workspace_folders").getD .null))
    (v : Value) (htimeout : (Value.mapping entries).field? "timeout" = some v)
    (hhidden : v.isShowable = false)

theorem getD_null_eq {o : Option Value} {v : Value} (hv : v ≠ .null) :
    o.getD .null = v ↔ o = some v := by
  cases o with
  | none => simpa using hv.symm
  | some w => simp

/-- Each stage of reading is reached exactly if those before it went well. -/
theorem breaksOff_ofEntries : BreaksOff (ofEntries entries) ↔ IsUnforeseen entries := by
  have hstages : BreaksOff (ofEntries entries) ↔ ¬HasTextKeys entries ∨ HasOnly names entries ∧
      ((∃ features, (Value.mapping entries).field? "features" = some (.mapping features) ∧
          ¬HasTextKeys features) ∨
        AreFeatures (((Value.mapping entries).field? "features").getD .null) ∧
          ((∃ before folder after, (Value.mapping entries).field? "workspace_folders" =
                some (.list (before ++ folder :: after)) ∧
              (∀ item ∈ before, IsFolder item) ∧ HidesInFolder folder) ∨
            AreFolders (((Value.mapping entries).field? "workspace_folders").getD .null) ∧
              ∃ v, (Value.mapping entries).field? "timeout" = some v ∧
                BreaksOff (readTimeout v))) := by
    simp only [ofEntries, breaksOff_bind, breaksOff_checkKeys, breaksOff_readFeatures,
      breaksOff_readFolders, ne_eq, reduceCtorEq, not_false_eq_true, getD_null_eq]
    cases (Value.mapping entries).field? "timeout" <;>
      simp only [breaksOff_bind, exists_and_right, checkKeys_ok, readFeatures_ok, readFolders_ok,
        pure, Except.pure, not_breaksOff_ok, and_false, exists_false, or_false, reduceCtorEq,
        false_and, Option.some.injEq, exists_eq_left']
  rw [hstages]
  constructor
  · rintro (hkey | ⟨hnames, hrest⟩)
    · exact .key hkey
    rcases hrest with ⟨features, hfeatures, hkey⟩ | ⟨hfeatures, hrest⟩
    · exact .feature hnames features hfeatures hkey
    rcases hrest with ⟨before, folder, after, hfolders, hbefore, hfolder⟩ | ⟨hfolders, v, hv, h⟩
    · exact .folder hnames hfeatures before after folder hfolders hbefore hfolder
    rcases breaksOff_readTimeout.mp h with ⟨n, rfl, hlarge⟩ | hhidden
    · exact .timeout hnames hfeatures hfolders n hv hlarge
    · exact .hiddenTimeout hnames hfeatures hfolders v hv hhidden
  · intro h
    cases h with
    | key hkey => exact .inl hkey
    | feature hnames features hfeatures hkey =>
      exact .inr ⟨hnames, .inl ⟨features, hfeatures, hkey⟩⟩
    | folder hnames hfeatures before after folder hfolders hbefore hfolder =>
      exact .inr ⟨hnames, .inr ⟨hfeatures,
        .inl ⟨before, folder, after, hfolders, hbefore, hfolder⟩⟩⟩
    | timeout hnames hfeatures hfolders n htimeout hlarge =>
      exact .inr ⟨hnames, .inr ⟨hfeatures, .inr ⟨hfolders, _, htimeout,
        breaksOff_readTimeout.mpr (.inl ⟨n, rfl, hlarge⟩)⟩⟩⟩
    | hiddenTimeout hnames hfeatures hfolders v htimeout hhidden =>
      exact .inr ⟨hnames, .inr ⟨hfeatures, .inr ⟨hfolders, v, htimeout,
        breaksOff_readTimeout.mpr (.inr hhidden)⟩⟩⟩

/-- Whether options can be used, or the user is told why not. -/
def IsExplained (r : Except OptionsError Options) : Prop :=
  (∃ options, r = .ok options) ∨ ∃ e, r = .error e ∧ e.isAnticipated

theorem isExplained_iff {r : Except OptionsError Options} : IsExplained r ↔ ¬BreaksOff r := by
  cases r <;> simp [IsExplained]

theorem areEntriesShowable_iff :
    areEntriesShowable entries ↔ ∀ entry ∈ entries, entry.1.isShowable ∧ entry.2.isShowable := by
  induction entries with
  | nil => simp [areEntriesShowable]
  | cons entry rest ih =>
    rw [areEntriesShowable, List.forall_mem_cons, ← ih, Bool.and_eq_true, Bool.and_eq_true]

theorem areShowable_iff {items : List Value} :
    areShowable items ↔ ∀ item ∈ items, item.isShowable := by
  induction items with
  | nil => simp [areShowable]
  | cons item rest ih => rw [areShowable, List.forall_mem_cons, ← ih, Bool.and_eq_true]

theorem isShowable_of_field? {v x : Value} {key : String} (hx : v.field? key = some x)
    (hv : v.isShowable) : x.isShowable := by
  cases v with
  | mapping entries =>
    rw [Value.isShowable, areEntriesShowable_iff] at hv
    obtain ⟨⟨k, w⟩, hentry, hfound⟩ := List.exists_of_findSome?_eq_some hx
    have hw := (hv _ hentry).2
    simp only at hfound
    split at hfound
    · split at hfound
      · cases hfound
        exact hw
      · cases hfound
    · cases hfound
  | _ => cases hx

/-- With texts for keys, no number that is too long to be shown and no timeout that is too large
for a double, options are used or the user is told why not. -/
theorem isExplained_of_isShowable (hkeys : HasTextKeys entries)
    (hfeatures : ∀ features, (Value.mapping entries).field? "features" = some (.mapping features) →
      HasTextKeys features)
    (htimeout : ∀ n, (Value.mapping entries).field? "timeout" = some (.int n) →
      ¬Number.IsTooLarge n)
    (hshowable : (Value.mapping entries).isShowable) : IsExplained (ofEntries entries) := by
  rw [isExplained_iff, breaksOff_ofEntries]
  intro h
  cases h with
  | key hkey => exact hkey hkeys
  | feature _ features h hkey => exact hkey (hfeatures features h)
  | timeout _ _ _ n h hlarge => exact htimeout n h hlarge
  | hiddenTimeout _ _ _ v h hhidden =>
    exact Bool.false_ne_true (hhidden.symm.trans (isShowable_of_field? h hshowable))
  | folder _ _ before after folder h _ hfolder =>
    have hlist := isShowable_of_field? h hshowable
    rw [Value.isShowable, areShowable_iff] at hlist
    have hshown := hlist folder (List.mem_append_right _ List.mem_cons_self)
    rcases hfolder with ⟨location, hl, hhidden⟩ | ⟨uri, name, -, hn, hhidden⟩
    · exact Bool.false_ne_true (hhidden.symm.trans (isShowable_of_field? hl hshown))
    · exact Bool.false_ne_true (hhidden.symm.trans (isShowable_of_field? hn hshown))

/-- The command reads its options before it does anything else. -/
theorem ofArguments_error {here : FilePath} {a : CommandLine.Arguments} {path : String}
    {content : Except FileTrouble (List Char)} {e : OptionsError}
    (h : ofFile path content = .error e) :
    CommandLine.Plan.ofArguments here a (some (path, content)) = .error (.options e) := by
  simp [CommandLine.Plan.ofArguments, CommandLine.Plan.readOptions, h, Except.mapError, bind,
    Except.bind]

theorem breaksOff_ofFile {path : String} {text : List Char} {v : Value}
    (hread : Yaml.read (Text.universalNewlines text) = .ok v) :
    BreaksOff (ofFile path (.ok text)) ↔
      ∃ entries, v = .mapping entries ∧ IsUnforeseen entries := by
  rw [ofFile, hread]
  cases v <;> simp [breaksOff_ofEntries, isAnticipated]

/-- Options are used, or the user is told what is wrong with them, unless that is something
nobody thought of; and of a file that can be read, the command tells how it is used then. -/
theorem explained_iff (here : FilePath) (a : CommandLine.Arguments) (path : String) :
    (∀ entries, IsExplained (ofEntries entries) ↔ ¬IsUnforeseen entries) ∧
      ∀ text v, Yaml.read (Text.universalNewlines text) = .ok v →
        (((∃ options, ofFile path (.ok text) = .ok options) ∨
            ∃ e, CommandLine.Plan.ofArguments here a (some (path, .ok text)) = .error e ∧
              e.isMisuse) ↔
          ∀ entries, v = .mapping entries → ¬IsUnforeseen entries) := by
  refine ⟨fun entries => by rw [isExplained_iff, breaksOff_ofEntries], fun text v hread => ?_⟩
  have hforeseen : (∀ entries, v = .mapping entries → ¬IsUnforeseen entries) ↔
      IsExplained (ofFile path (.ok text)) := by
    rw [isExplained_iff, breaksOff_ofFile hread]
    simp only [not_exists, not_and]
  rw [hforeseen, IsExplained]
  cases hoptions : ofFile path (.ok text) with
  | ok options => exact iff_of_true (.inl ⟨options, rfl⟩) (.inl ⟨options, rfl⟩)
  | error e => simp [ofArguments_error hoptions, CommandLine.CommandError.isMisuse]

def home : FilePath := .ofText "/home".toList

/-- Arguments that name a file with options. -/
def asked : CommandLine.Arguments where
  file := "a.py"
  command := ["server"]
  config := .word "c.yaml"
  language := .unset
  seconds := some 5.0
  logLevel := .unset

/-- Whether what was read is a mapping with one entry, of a key and a text. -/
def isSingle (isKey : Value → Bool) (s : String) : Except Yaml.Fault Value → Bool
  | .ok (.mapping [(key, .text t)]) => isKey key && t == s
  | _ => false

theorem eq_of_isSingle {isKey : Value → Bool} {key : Value} {s : String}
    {r : Except Yaml.Fault Value} (hkey : ∀ k, isKey k → k = key) (h : isSingle isKey s r) :
    r = .ok (.mapping [(key, .text s)]) := by
  unfold isSingle at h
  split at h
  · next k t =>
    rw [Bool.and_eq_true, beq_iff_eq] at h
    rw [hkey k h.1, h.2]
  · cases h

/-- The options in a file with a timeout that is no number. -/
def untimely : List (Value × Value) := [(.text "timeout", .text "x")]

theorem read_untimely :
    Yaml.read (Text.universalNewlines "timeout: x\n".toList) = .ok (.mapping untimely) := by
  have hkey (k : Value) (h : k.text? == some "timeout") : k = .text "timeout" := by
    cases k <;> simp_all [Value.text?]
  exact eq_of_isSingle hkey (by decide +kernel)

theorem explained_iff_untimely :
    Yaml.read (Text.universalNewlines "timeout: x\n".toList) = .ok (.mapping untimely) ∧
      ((∃ options, ofFile "c.yaml" (.ok "timeout: x\n".toList) = .ok options) ∨
        ∃ e, CommandLine.Plan.ofArguments home asked (some ("c.yaml", .ok "timeout: x\n".toList)) =
            .error e ∧ e.isMisuse) := by
  refine ⟨read_untimely, ((explained_iff home asked "c.yaml").2 _ _ read_untimely).mpr ?_⟩
  intro entries hentries hunforeseen
  cases hentries
  have hrejected : ofEntries untimely = .error (.malformedTimeout (.text "x")) := rfl
  rw [← breaksOff_ofEntries, hrejected, breaksOff_error] at hunforeseen
  cases hunforeseen

/-- The options in a file with a key that is a number. -/
def numbered : List (Value × Value) := [(.int 1, .text "x")]

theorem read_numbered :
    Yaml.read (Text.universalNewlines "1: x\n".toList) = .ok (.mapping numbered) := by
  have hkey (k : Value) (h : k.int? == some 1) : k = .int 1 := by
    cases k <;> simp_all [Value.int?]
  exact eq_of_isSingle hkey (by decide +kernel)

/-- The user is not told that a key is a number. -/
theorem not_explained_numbered :
    Yaml.read (Text.universalNewlines "1: x\n".toList) = .ok (.mapping numbered) ∧
      ¬IsExplained (ofEntries numbered) ∧
      ∃ e, CommandLine.Plan.ofArguments home asked (some ("c.yaml", .ok "1: x\n".toList)) =
          .error e ∧ e.isMisuse = false := by
  have hrejected : ofEntries numbered = .error (.namelessKey "int") := rfl
  have hfile : ofFile "c.yaml" (.ok "1: x\n".toList) = .error (.namelessKey "int") := by
    rw [ofFile, read_numbered]
    exact hrejected
  refine ⟨read_numbered, ?_, _, ofArguments_error hfile, rfl⟩
  rw [isExplained_iff, not_not, hrejected, breaksOff_error]
  rfl

end Options
end EditorLink
