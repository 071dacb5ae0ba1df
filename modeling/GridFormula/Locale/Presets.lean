import GridFormula.Locale.Basic

/-!
# Two locales

The locale of the United States, in which all names are canonical, and the locale of Germany, in
which the decimal comma pushes the other separators to the semicolon and the backslash.
-/

namespace GridFormula.Locale

/-- Formulas as written in the United States. -/
def unitedStates : Locale where
  decimal := '.'
  argument := ','
  arrayColumn := ','
  arrayRow := ';'
  rowCount := 1048576
  columnCount := 16384
  spacing := .plain
  functionNames := []
  errorNames := ErrorValue.all.map fun e => (e.code, e)
  volatileFunctions :=
    ["INDIRECT".toList, "NOW".toList, "RAND".toList, "RANDARRAY".toList, "RANDBETWEEN".toList,
      "TODAY".toList]
  structuralFunctions :=
    ["CELL".toList, "COLUMN".toList, "COLUMNS".toList, "FORMULATEXT".toList, "ROW".toList,
      "ROWS".toList, "SHEET".toList, "SHEETS".toList]

/-- Formulas as written in Germany. -/
def germany : Locale :=
  { unitedStates with
    decimal := ','
    argument := ';'
    arrayColumn := '\\'
    arrayRow := ';'
    functionNames :=
      [("ANZAHL".toList, "COUNT".toList),
        ("BEREICH.VERSCHIEBEN".toList, "OFFSET".toList),
        ("HEUTE".toList, "TODAY".toList),
        ("INDIREKT".toList, "INDIRECT".toList),
        ("JETZT".toList, "NOW".toList),
        ("MITTELWERT".toList, "AVERAGE".toList),
        ("SPALTE".toList, "COLUMN".toList),
        ("SPALTEN".toList, "COLUMNS".toList),
        ("SUMME".toList, "SUM".toList),
        ("SVERWEIS".toList, "VLOOKUP".toList),
        ("VERGLEICH".toList, "MATCH".toList),
        ("WENN".toList, "IF".toList),
        ("ZEILE".toList, "ROW".toList),
        ("ZEILEN".toList, "ROWS".toList),
        ("ZUFALLSBEREICH".toList, "RANDBETWEEN".toList),
        ("ZUFALLSZAHL".toList, "RAND".toList)]
    errorNames :=
      [("#BEZUG!".toList, .lostReference),
        ("#DIV/0!".toList, .divisionByZero),
        ("#FEHLER!".toList, .other),
        ("#LIC!".toList, .licence),
        ("#NAME?".toList, .unknownName),
        ("#NV".toList, .notAvailable),
        ("#WERT!".toList, .wrongType),
        ("#ZAHL!".toList, .numeric),
        ("#ZYKLUS!".toList, .cycle),
        ("#ÜBERLAUF!".toList, .spill)] }

example : unitedStates.fault? = none ∧ germany.fault? = none := by decide +kernel

end GridFormula.Locale
