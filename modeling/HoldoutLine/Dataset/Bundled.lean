import HoldoutLine.Dataset.Decode

/-! # The bundled scores

A class's midterm scores (out of 125) and final scores (out of 100), as a table in the form that a file
or the standard input would have. It is the dataset of a run that names no source.
-/

namespace HoldoutLine.Dataset

def bundledLines : List String :=
  ["# midterm (max 125), final (max 100)", "113, 86", "104, 83", "110, 78", "101, 79", "101, 77",
    "103, 76", "71, 94", "102, 71", "88, 76", "101, 72", "81, 78", "84, 78", "91, 72", "107, 65",
    "64, 89", "78, 86", "74, 73", "117, 45", "100, 55", "105, 53", "72, 88", "87, 73", "44, 73",
    "66, 81", "64, 70", "86, 51", "68, 52", "47, 66", "63, 66", "51, 57", "64, 41", "54, 49", "53, 47",
    "92, 29", "48, 18", "42, 36", "21, 22", "55, 55", "61, 28", "50, 35", "21, 0", "45, 0", "42, 0"]

/-- The table of scores; its lines are separated by a carriage return and a line feed. -/
def bundledTable : String := String.intercalate "\r\n" bundledLines

def bundled : Except DatasetError Dataset := ofText bundledTable

end HoldoutLine.Dataset
