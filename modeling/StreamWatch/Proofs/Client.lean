import Mathlib.Data.List.Infix
import StreamWatch.Client

namespace StreamWatch

/-!
# Devices and platforms

The kind of a device and that of a platform are both told by the marks that stand in what a client
says, but not by the same ones.

* `Text.occursIn_iff` — what stands in a text, and `holdsMark_of_covered`, by which a text that
  holds a mark holds what stands in that mark;
* `holdsMark_marks` — a platform of a kind holds one of the marks of that kind;
* `deviceKind_tv`, `deviceKind_none` — the device of a platform with a television mark, and that of
  a platform without one where no device is named;
* `deviceKind_of_platformKind` — hence how far the two kinds agree;
* `not_deviceKind_agrees` — they do not always, as a mobile platform with a version shows.
-/

/-! ### Marks in a text -/

namespace Text

/-- A text stands in another one if its characters stand there in a row. -/
theorem standsIn_iff {needle : List Char} {text : List Char} :
    standsIn needle text = true ↔ needle <:+: text := by
  induction text with
  | nil => rw [standsIn, List.isEmpty_iff, List.infix_nil]
  | cons c rest ih =>
    rw [standsIn, Bool.or_eq_true, List.isPrefixOf_iff_prefix, ih, List.infix_cons_iff]

/-- A text occurs in another one if its characters stand there in a row. -/
theorem occursIn_iff {needle text : String} :
    occursIn needle text = true ↔ needle.toList <:+: text.toList := standsIn_iff

end Text

/-- A text holds one of some marks if one of them occurs in it. -/
theorem holdsMark_iff {marks : List String} {text : String} :
    holdsMark marks text = true ↔ ∃ mark ∈ marks, mark.toList <:+: text.toList := by
  rw [holdsMark, List.any_eq_true]
  simp only [Text.occursIn_iff]

/-- A text that is one of some marks holds it. -/
theorem holdsMark_of_mem {marks : List String} {text : String} (h : text ∈ marks) :
    holdsMark marks text = true :=
  holdsMark_iff.mpr ⟨text, h, List.infix_refl _⟩

/-- A text that holds one of some marks, each of which holds one of some others, holds one of the
    others. -/
theorem holdsMark_of_covered {marks others : List String} {text : String}
    (hcovered : ∀ mark ∈ marks, holdsMark others mark = true) (h : holdsMark marks text = true) :
    holdsMark others text = true := by
  obtain ⟨mark, hmark, htext⟩ := holdsMark_iff.mp h
  obtain ⟨other, hother, hinner⟩ := holdsMark_iff.mp (hcovered mark hmark)
  exact holdsMark_iff.mpr ⟨other, hother, hinner.trans htext⟩

/-! ### Platforms -/

/-- What a client says of itself, in lower case, and nothing where it says nothing. -/
def clientText (said : Option String) : String := Text.lowercase (said.getD "")

/-- The marks of a kind of platform. -/
def PlatformKind.marks : PlatformKind → List String
  | .ios => ["ios", "iphone", "ipad"]
  | .android => ["android"]
  | .windows => ["windows"]
  | .macos => ["macos", "mac os", "darwin"]
  | .linux => ["linux"]
  | .tvos => ["tvos", "apple tv"]
  | .androidtv => ["tv"]
  | .roku => ["roku"]
  | .webos => ["webos"]
  | .tizen => ["tizen"]
  | .unknown => []

/-- A platform of a kind that is known holds one of the marks of that kind. -/
theorem holdsMark_marks {platform : Option String} {kind : PlatformKind}
    (h : platformKind platform = kind) (hknown : kind ≠ .unknown) :
    holdsMark kind.marks (clientText platform) = true := by
  unfold platformKind at h
  simp only at h
  rw [← clientText] at h
  generalize clientText platform = p at h ⊢
  -- The tests in their order.  Two of them also take a name as a whole, which is then a mark too.
  split at h
  · rename_i hios
    subst h
    rw [Bool.or_eq_true, Bool.or_eq_true, beq_iff_eq, beq_iff_eq] at hios
    rcases hios with (hmark | rfl) | rfl
    · exact holdsMark_of_covered (by decide) hmark
    · exact holdsMark_of_mem (by decide)
    · exact holdsMark_of_mem (by decide)
  split at h
  · rename_i handroid
    split at h
    · rename_i htv
      exact h ▸ htv
    · exact h ▸ handroid
  split at h
  · rename_i hwindows
    exact h ▸ hwindows
  split at h
  · rename_i hmacos
    subst h
    rw [Bool.or_eq_true, beq_iff_eq] at hmacos
    rcases hmacos with hmark | rfl
    · exact holdsMark_of_covered (by decide) hmark
    · exact holdsMark_of_mem (by decide)
  split at h
  · rename_i hlinux
    exact h ▸ hlinux
  split at h
  · rename_i htvos
    exact h ▸ htvos
  split at h
  · rename_i hroku
    exact h ▸ hroku
  split at h
  · rename_i hwebos
    exact h ▸ hwebos
  split at h
  · rename_i htizen
    exact h ▸ htizen
  · exact absurd h.symm hknown

/-- What is taken for macOS does not hold the mark of Windows, which is looked for before. -/
theorem not_holdsMark_windows {platform : Option String} (h : platformKind platform = .macos) :
    holdsMark ["windows"] (clientText platform) = false := by
  rw [Bool.eq_false_iff]
  intro hwindows
  unfold platformKind at h
  simp only at h
  rw [← clientText, if_pos hwindows] at h
  split at h
  · cases h
  · split at h
    · split at h <;> cases h
    · cases h

/-- The kinds of platform that run on television sets. -/
def televisionPlatforms : List PlatformKind := [.androidtv, .tvos, .roku, .webos, .tizen]

/-- A platform that runs on television sets holds a television mark. -/
theorem holdsMark_televisionMarks {platform : Option String}
    (h : platformKind platform ∈ televisionPlatforms) :
    holdsMark televisionMarks (clientText platform) = true := by
  have hknown : ∀ kind ∈ televisionPlatforms, kind ≠ .unknown := by decide
  have hcovered : ∀ kind ∈ televisionPlatforms, ∀ mark ∈ kind.marks,
      holdsMark televisionMarks mark = true := by decide
  exact holdsMark_of_covered (hcovered _ h) (holdsMark_marks rfl (hknown _ h))

/-! ### Devices -/

/-- The marks of a platform that runs on desktop machines. -/
def desktopMarks : List String := ["windows", "macos", "linux"]

/-- A device on a platform with a television mark is a television set, whatever the device is. -/
theorem deviceKind_tv {platform : Option String}
    (h : holdsMark televisionMarks (clientText platform) = true) (device : Option String) :
    deviceKind device platform = .tv := by
  unfold deviceKind
  show (if (_ || holdsMark televisionMarks (clientText platform)) = true then _ else _) = _
  rw [h, Bool.or_true, if_pos rfl]

/-- In a device that is not named there is no mark. -/
theorem holdsMark_unnamed {marks : List String} (h : "" ∉ marks) :
    holdsMark marks (clientText none) = false := by
  rw [Bool.eq_false_iff]
  intro hholds
  obtain ⟨mark, hmark, hinfix⟩ := holdsMark_iff.mp hholds
  have hnil : mark.toList = [] := List.infix_nil.mp hinfix
  exact h (String.toList_eq_nil_iff.mp hnil ▸ hmark)

/-- Where no device is named and the platform has no television mark, the whole name of a mobile
    platform tells a mobile device, and else a desktop mark a desktop machine. -/
theorem deviceKind_none {platform : Option String}
    (h : holdsMark televisionMarks (clientText platform) = false) :
    deviceKind none platform =
      if clientText platform = "ios" ∨ clientText platform = "android" then .mobile
      else if holdsMark desktopMarks (clientText platform) = true then .desktop else .unknown := by
  unfold deviceKind
  simp only
  rw [← clientText, ← clientText, h, holdsMark_unnamed (by decide), holdsMark_unnamed (by decide),
    holdsMark_unnamed (by decide), holdsMark_unnamed (by decide)]
  simp only [Bool.false_or, Bool.or_eq_true, beq_iff_eq, Bool.false_eq_true, if_false]
  rfl

/-- Where no device is named and the platform has a desktop mark and no television mark, the device
    is a desktop machine. -/
theorem deviceKind_desktop {platform : Option String}
    (h : holdsMark televisionMarks (clientText platform) = false)
    (hdesktop : holdsMark desktopMarks (clientText platform) = true) :
    deviceKind none platform = .desktop := by
  have hwhole : ¬ (clientText platform = "ios" ∨ clientText platform = "android") := by
    rintro (hios | handroid)
    · rw [hios] at hdesktop
      exact absurd hdesktop (by decide)
    · rw [handroid] at hdesktop
      exact absurd hdesktop (by decide)
  rw [deviceKind_none h, if_neg hwhole, if_pos hdesktop]

/-- A text holds a desktop mark if it holds that of Windows, or one of the two others. -/
theorem holdsMark_desktopMarks (text : String) :
    holdsMark desktopMarks text =
      (holdsMark ["windows"] text || holdsMark ["macos", "linux"] text) := by
  rw [holdsMark, holdsMark, holdsMark, ← List.any_append]
  rfl

/-- **How far devices and platforms agree.**  On a platform that runs on television sets every
    device is one.  Where no device is named and the platform holds no television mark, Windows and
    Linux tell a desktop machine, macOS tells one exactly if it is written in one word or Linux is
    named as well, and a mobile platform tells a mobile device exactly if its whole name is given
    and nothing else. -/
theorem deviceKind_of_platformKind (platform : Option String) :
    (platformKind platform ∈ televisionPlatforms → ∀ device, deviceKind device platform = .tv) ∧
    (holdsMark televisionMarks (clientText platform) = false →
      (platformKind platform = .windows ∨ platformKind platform = .linux →
        deviceKind none platform = .desktop) ∧
      (platformKind platform = .macos → (deviceKind none platform = .desktop ↔
        holdsMark ["macos", "linux"] (clientText platform) = true)) ∧
      (platformKind platform = .ios ∨ platformKind platform = .android →
        (deviceKind none platform = .mobile ↔
          clientText platform = "ios" ∨ clientText platform = "android"))) := by
  constructor
  · intro htelevision device
    exact deviceKind_tv (holdsMark_televisionMarks htelevision) device
  · intro h
    refine ⟨?_, ?_, ?_⟩
    · rintro (hkind | hkind) <;>
        exact deviceKind_desktop h
          (holdsMark_of_covered (by decide) (holdsMark_marks hkind (by decide)))
    · intro hkind
      have hmarks := holdsMark_desktopMarks (clientText platform)
      rw [not_holdsMark_windows hkind, Bool.false_or] at hmarks
      rw [← hmarks]
      refine ⟨fun hdesktop => ?_, deviceKind_desktop h⟩
      rw [deviceKind_none h] at hdesktop
      split_ifs at hdesktop with hwhole hmark
      exact hmark
    · intro _
      rw [deviceKind_none h]
      split_ifs with hwhole hdesktop
      · exact iff_of_true rfl hwhole
      · exact iff_of_false (by decide) hwhole
      · exact iff_of_false (by decide) hwhole

/-- A set-top box, two desktop machines and a telephone.  The kinds of their platforms are found,
    and those of their devices follow. -/
theorem deviceKind_of_platformKind_named :
    deviceKind (some "Player") (some "Apple TV 4K") = .tv ∧
      deviceKind none (some "Windows 11") = .desktop ∧
      deviceKind none (some "macOS 14") = .desktop ∧
      deviceKind none (some "iOS") = .mobile := by
  refine ⟨?_, ?_, ?_, ?_⟩
  · exact (deviceKind_of_platformKind (some "Apple TV 4K")).1 (by decide +kernel) (some "Player")
  · exact ((deviceKind_of_platformKind (some "Windows 11")).2 (by decide +kernel)).1
      (.inl (by decide +kernel))
  · exact (((deviceKind_of_platformKind (some "macOS 14")).2 (by decide +kernel)).2.1
      (by decide +kernel)).mpr (by decide +kernel)
  · exact (((deviceKind_of_platformKind (some "iOS")).2 (by decide +kernel)).2.2
      (.inl (by decide +kernel))).mpr (.inl (by decide +kernel))

/-- The two kinds do not always agree: with the number of its version a mobile platform is still
    found, by the mark that it holds, but is not the whole name that tells a mobile device.  And
    macOS, written in two words, is found without telling a desktop machine. -/
theorem not_deviceKind_agrees :
    (¬ ∀ device platform : Option String,
      (platformKind platform ∈ televisionPlatforms → deviceKind device platform = .tv) ∧
      (holdsMark televisionMarks (clientText platform) = false →
        (platformKind platform ∈ [.windows, .macos, .linux] →
          deviceKind none platform = .desktop) ∧
        (platformKind platform ∈ [.ios, .android] → deviceKind none platform = .mobile))) ∧
      platformKind (some "Mac OS X") = .macos ∧
      holdsMark televisionMarks (clientText (some "Mac OS X")) = false ∧
      deviceKind none (some "Mac OS X") = .unknown := by
  refine ⟨fun hagrees => ?_, by decide +kernel, by decide +kernel, by decide +kernel⟩
  have hmobile := ((hagrees none (some "iOS 17")).2 (by decide +kernel)).2 (by decide +kernel)
  exact absurd hmobile (by decide +kernel)

end StreamWatch
