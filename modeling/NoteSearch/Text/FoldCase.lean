/-!
# Folding the case of ASCII letters

Names and search terms are compared without regard to the case of the letters `A` to `Z`. Letters of
other scripts, and accented letters, keep their case: `É` and `é` stay different.
-/

namespace NoteSearch.Text

/-- **ASCII case folding**: the letters `A` to `Z` become `a` to `z`, and every other character stays
what it is. -/
def foldCase (s : String) : String :=
  String.ofList (s.toList.map Char.toLower)

@[simp] theorem toList_foldCase (s : String) :
    (foldCase s).toList = s.toList.map Char.toLower := by
  simp [foldCase]

end NoteSearch.Text
