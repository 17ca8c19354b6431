import ModalEditor.Text.Blank
import ModalEditor.Text.Basic
/-!
# Trimming

Blanks at the ends of a text, and the indent that leads a line.
-/
namespace ModalEditor.Text

def indent (t : Text) : Text := t.takeWhile isBlank

def trimStart (t : Text) : Text := t.dropWhile isBlank

def trimEnd (t : Text) : Text := (t.reverse.dropWhile isBlank).reverse

def trim (t : Text) : Text := trimEnd (trimStart t)

theorem indent_append_trimStart (t : Text) : indent t ++ trimStart t = t :=
  List.takeWhile_append_dropWhile

theorem indent_sublist (t : Text) : (indent t).Sublist t := List.takeWhile_sublist _

theorem trimStart_sublist (t : Text) : (trimStart t).Sublist t := List.dropWhile_sublist _

theorem trimEnd_sublist (t : Text) : (trimEnd t).Sublist t := by
  have h := (List.dropWhile_sublist (l := t.reverse) isBlank).reverse
  rwa [List.reverse_reverse] at h

theorem trim_sublist (t : Text) : (trim t).Sublist t :=
  (trimEnd_sublist _).trans (trimStart_sublist t)

end ModalEditor.Text
