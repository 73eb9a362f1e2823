import LinkShot.Config.Settings
import LinkShot.Proofs.FilePath

/-!
Settings that are taken from the home folder. What follows `~/` leads on from there, unless it
begins with one more slash: joining forgets the folder then.
-/
namespace LinkShot.FilePath

open FileTree (named named_slash named_nil)

def root : FilePath := ⟨[slash]⟩

/-- What paths are compared by: the root, the names that lead on, and a dot where a path begins with
one. -/
def components (path : FilePath) : List FilePath :=
  (if isAbsolute path then [root] else if (names path).head? = some stay then [stay] else []) ++
    named path.bytes

/-- Where a setting is looked for. -/
structure Placed (home : FilePath) (setting : String) (path : FilePath) : Prop where
  below : ∀ rest, setting = "~/" ++ rest → isAbsolute (ofText rest) = false →
    components path = components home ++ named (ofText rest).bytes
  away : ∀ rest, setting = "~/" ++ rest → isAbsolute (ofText rest) = true → path = ofText rest
  same : (∀ rest, setting ≠ "~/" ++ rest) → path = ofText setting

variable {home path folder : FilePath} {rest setting : String}

theorem components_of_absolute (h : isAbsolute path = true) :
    components path = root :: named path.bytes := by
  rw [components, if_pos h]
  rfl

/-- A relative path leads on from where its folder ends. -/
theorem named_join (hf : folder.bytes ≠ []) (hp : isAbsolute path = false) :
    named (join folder path).bytes = named folder.bytes ++ named path.bytes := by
  rw [join, hp, Bool.false_or, decide_eq_false hf, if_neg (by simp)]
  split
  · rename_i hslash
    obtain ⟨way, hway⟩ := List.getLast?_eq_some_iff.mp hslash
    rw [hway, List.append_assoc, List.singleton_append, named_slash, named_slash, named_nil,
      List.append_nil]
  · exact named_slash

theorem ne_empty_of_absolute (hh : isAbsolute home = true) : home.bytes ≠ [] := by
  intro hempty
  simp [isAbsolute, hempty] at hh

theorem isAbsolute_append (hh : isAbsolute home = true) (bs : Text.Bytes) :
    isAbsolute ⟨home.bytes ++ bs⟩ = true := by
  obtain ⟨after, hafter⟩ := List.head?_eq_some_iff.mp (beq_iff_eq.mp hh)
  simp [isAbsolute, hafter]

theorem isAbsolute_join_relative (hh : isAbsolute home = true) (hp : isAbsolute path = false) :
    isAbsolute (join home path) = true := by
  rw [join, hp, Bool.false_or, decide_eq_false (ne_empty_of_absolute hh), if_neg (by simp)]
  split <;> exact isAbsolute_append hh _

theorem expandHome_tilde (home : FilePath) (rest : String) :
    expandHome home ("~/" ++ rest) = join home (ofText rest) := by
  have htilde : ("~/" ++ rest).toList = '~' :: '/' :: rest.toList := by simp
  simp only [expandHome, htilde, String.ofList_toList]

theorem expandHome_other (h : ∀ rest, setting ≠ "~/" ++ rest) :
    expandHome home setting = ofText setting := by
  unfold expandHome
  split
  · rename_i rest htilde
    refine absurd ?_ (h (String.ofList rest))
    rw [← String.toList_inj, htilde]
    simp
  · rfl

theorem components_home (hh : isAbsolute home = true) (hr : isAbsolute (ofText rest) = false) :
    components (expandHome home ("~/" ++ rest)) =
      components home ++ named (ofText rest).bytes := by
  rw [expandHome_tilde, components_of_absolute (isAbsolute_join_relative hh hr),
    named_join (ne_empty_of_absolute hh) hr, components_of_absolute hh, List.cons_append]

theorem expandHome_absolute (hr : isAbsolute (ofText rest) = true) :
    expandHome home ("~/" ++ rest) = ofText rest := by
  rw [expandHome_tilde, join, hr, Bool.true_or, if_pos rfl]

theorem placed (hh : isAbsolute home = true) (setting : String) :
    Placed home setting (expandHome home setting) where
  below rest hs hr := by
    subst hs
    exact components_home hh hr
  away rest hs hr := by
    subst hs
    exact expandHome_absolute hr
  same := expandHome_other

/-- A setting that begins with `~/` stays below the home folder, unless what follows begins with a
slash: it is taken as it stands then, and lies in the home folder just if it leads there itself. The
same holds for the folder of the providers and for the log. -/
theorem settings_from_home (home : FilePath) (hh : isAbsolute home = true) :
    (∀ setting, Placed home setting (expandHome home setting)) ∧
      (∀ c : Config, Placed home c.folder (c.providersFolder home) ∧
        Placed home c.log.path (c.logPath home)) ∧
      ∀ rest, components home <+: components (expandHome home ("~/" ++ rest)) ↔
        isAbsolute (ofText rest) = false ∨ components home <+: components (ofText rest) := by
  refine ⟨placed hh, fun c => ⟨placed hh c.folder, placed hh c.log.path⟩, fun rest => ?_⟩
  cases hr : isAbsolute (ofText rest) with
  | false =>
    rw [components_home hh hr]
    simp
  | true =>
    rw [expandHome_absolute hr]
    simp

def userHome : FilePath := "/home/user"

theorem settings_from_home_user :
    isAbsolute userHome = true ∧
      (∀ setting, Placed userHome setting (expandHome userHome setting)) ∧
      (∀ c : Config, Placed userHome c.folder (c.providersFolder userHome) ∧
        Placed userHome c.log.path (c.logPath userHome)) ∧
      ∀ rest, components userHome <+: components (expandHome userHome ("~/" ++ rest)) ↔
        isAbsolute (ofText rest) = false ∨ components userHome <+: components (ofText rest) := by
  have hh : isAbsolute userHome = true := by decide
  exact ⟨hh, settings_from_home userHome hh⟩

/-- With two slashes the setting leads to the root. -/
theorem second_slash_leaves_home :
    ¬ ∀ home rest, isAbsolute home = true →
      components home <+: components (expandHome home ("~/" ++ rest)) := by
  intro h
  have hprefix := h userHome "/etc" (by decide)
  revert hprefix
  decide

end LinkShot.FilePath
