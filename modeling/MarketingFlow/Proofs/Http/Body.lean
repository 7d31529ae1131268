import MarketingFlow.Http.Content

/-!
# The body of a request

The text of a document as a list of characters, which has the shape of the document itself: whether
a document can be sent is read off that list, and no text needs to be put together for it.
-/

namespace MarketingFlow

namespace Json

def stringChars (onlyAscii : Bool) (s : String) : List Char :=
  '"' :: (Text.codePoints s.toList).flatMap (escapeCode onlyAscii) ++ ['"']

mutual

def writtenChars (style : Style) : Json → List Char
  | null => "null".toList
  | bool b => (if b then "true" else "false").toList
  | int n => (toString n).toList
  | float x => (Decimal.Layout.document.write x).toList
  | str s => stringChars style.onlyAscii s
  | arr xs => '[' :: style.item.toList.intercalate (itemChars style xs) ++ [']']
  | obj ms => '\x7b' :: style.item.toList.intercalate (memberChars style ms) ++ ['\x7d']

def itemChars (style : Style) : List Json → List (List Char)
  | [] => []
  | x :: xs => writtenChars style x :: itemChars style xs

def memberChars (style : Style) : List (String × Json) → List (List Char)
  | [] => []
  | (k, v) :: ms =>
    (stringChars style.onlyAscii k ++ style.key.toList ++ writtenChars style v) ::
      memberChars style ms

end

theorem toList_writeString (onlyAscii : Bool) (s : String) :
    (writeString onlyAscii s).toList = stringChars onlyAscii s := by
  rw [writeString, String.toList_ofList, stringChars]

mutual

theorem toList_write (style : Style) (v : Json) :
    (v.write style).toList = v.writtenChars style := by
  cases v with
  | str s => exact toList_writeString style.onlyAscii s
  | arr xs =>
    rw [write, String.toList_append, String.toList_append, String.toList_intercalate,
      map_writeItems style xs]
    rfl
  | obj ms =>
    rw [write, String.toList_append, String.toList_append, String.toList_intercalate,
      map_writeMembers style ms]
    rfl
  | _ => rfl

theorem map_writeItems (style : Style) (xs : List Json) :
    (writeItems style xs).map String.toList = itemChars style xs := by
  cases xs with
  | nil => rfl
  | cons x xs => rw [writeItems, itemChars, List.map_cons, toList_write, map_writeItems style xs]

theorem map_writeMembers (style : Style) (ms : List (String × Json)) :
    (writeMembers style ms).map String.toList = memberChars style ms := by
  cases ms with
  | nil => rfl
  | cons m ms =>
    rw [writeMembers, memberChars, List.map_cons, String.toList_append, String.toList_append,
      toList_writeString, toList_write, map_writeMembers style ms]

end

end Json

theorem Failure.checkEncoding_of_holds {e : Text.Encoding} {text : String}
    (h : (Text.codePoints text.toList).all e.holds = true) : checkEncoding e text = .ok () := by
  rw [checkEncoding, Text.Encoding.flaw?_eq_none h]

namespace Content

theorem toBody_of_ne_null {v : Json} (h : v ≠ .null) :
    (document v).toBody =
      if !v.isFinite then .error (Failure.value "Out of range float values are not JSON compliant")
      else (Failure.checkEncoding .utf8 (v.write .sent)).map fun _ => .json v := by
  rw [toBody]
  · split
    · rfl
    · cases Failure.checkEncoding .utf8 (v.write .sent) <;> rfl
  · exact h

/-- The text of a document is put together only where it cannot be sent. -/
theorem toBody_document (v : Json) :
    (document v).toBody =
      if v.isNull then .ok .empty
      else if !v.isFinite then
        .error (Failure.value "Out of range float values are not JSON compliant")
      else if (Text.codePoints (v.writtenChars .sent)).all Text.Encoding.utf8.holds then
        .ok (.json v)
      else (Failure.checkEncoding .utf8 (v.write .sent)).map fun _ => .json v := by
  by_cases hnull : v = .null
  · subst hnull
    rfl
  · have hmatch : v.isNull = false := by
      cases v <;> first | rfl | exact absurd rfl hnull
    rw [toBody_of_ne_null hnull, hmatch, if_neg Bool.false_ne_true]
    split
    · rfl
    · split
      · rename_i hholds
        rw [Failure.checkEncoding_of_holds (by rwa [Json.toList_write])]
        rfl
      · rfl

end Content

end MarketingFlow
