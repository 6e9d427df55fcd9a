import Metrology.Definition

/-!
# Built-in definitions

The quantities that are known when no document is given.
-/

namespace Metrology.Definitions

variable {α : Type} [Scalar α]

/-- A visible unit without neighbours, whose slope is `digits / 10 ^ places`. -/
def plainUnit (expression name : String) (digits : Nat) (places : Nat) :
    MeasureUnit α :=
  .proportional expression name (Scalar.decimal digits places)

/-- A unit between two neighbours. -/
def between (smaller larger : Option String) (unit : MeasureUnit α) :
    MeasureUnit α :=
  { unit with smaller, larger }

def ratioUnits : List (MeasureUnit α) :=
  [plainUnit "" "ratio" 1 0,
    plainUnit "%" "percent" 1 2,
    plainUnit "ppm" "part per million" 1 6,
    plainUnit "ppb" "part per billion" 1 9]

def massUnits : List (MeasureUnit α) :=
  [between "g" "tonne" (plainUnit "kg" "kilogram" 1 0),
    between "mg" "kg" (plainUnit "g" "gram" 1 3),
    between none "g" (plainUnit "mg" "milligram" 1 6),
    between "kg" none (plainUnit "tonne" "metric tonne" 1000 0),
    plainUnit "ton" "short ton" 90718474 5,
    plainUnit "lb" "pound" 45359237 8,
    plainUnit "oz" "ounce" 28349523125 12]

def lengthUnits : List (MeasureUnit α) :=
  [between "mm" "km" (plainUnit "m" "meter" 1 0),
    between "m" none (plainUnit "km" "kilometer" 1000 0),
    plainUnit "cm" "centimeter" 1 2,
    between none "m" (plainUnit "mm" "millimeter" 1 3),
    plainUnit "mi" "mile" 1609344 3,
    plainUnit "ft" "foot" 3048 4,
    plainUnit "in" "inch" 254 4,
    plainUnit "yd" "yard" 9144 4]

/-- The year is the accounting year of 365 days. -/
def timeUnits : List (MeasureUnit α) :=
  [between none "min" (plainUnit "s" "second" 1 0),
    between "s" "hr" (plainUnit "min" "minute" 60 0),
    between "min" "day" (plainUnit "hr" "hour" 3600 0),
    between "hr" "yr" (plainUnit "day" "day" 86400 0),
    between "day" none (plainUnit "yr" "year" 31536000 0)]

def currencyUnits : List (MeasureUnit α) :=
  [between none "k$" (plainUnit "$" "dollar" 1 0),
    plainUnit "cent" "cent" 1 2,
    between "$" "M$" (plainUnit "k$" "thousand dollars" 1000 0),
    between "k$" none (plainUnit "M$" "million dollars" 1000000 0)]

def areaUnits : List (MeasureUnit α) :=
  [between none "ha" (plainUnit "m^2" "square meter" 1 0),
    between "ha" none (plainUnit "km^2" "square kilometer" 1000000 0),
    between "m^2" "km^2" (plainUnit "ha" "hectare" 10000 0),
    plainUnit "acre" "acre" 40468564224 7,
    plainUnit "ft^2" "square foot" 9290304 8]

def volumeUnits : List (MeasureUnit α) :=
  [between "L" none (plainUnit "m^3" "cubic meter" 1 0),
    between "mL" "m^3" (plainUnit "L" "liter" 1 3),
    between none "L" (plainUnit "mL" "milliliter" 1 6),
    plainUnit "ML" "megaliter" 1000 0,
    plainUnit "gal" "US gallon" 3785411784 12,
    plainUnit "bbl" "barrel" 158987294928 12,
    plainUnit "ft^3" "cubic foot" 28316846592 12]

def energyUnits : List (MeasureUnit α) :=
  [between none "kJ" (plainUnit "J" "joule" 1 0),
    between "J" "MJ" (plainUnit "kJ" "kilojoule" 1000 0),
    between "kJ" "GJ" (plainUnit "MJ" "megajoule" 1000000 0),
    between "MJ" none (plainUnit "GJ" "gigajoule" 1000000000 0),
    plainUnit "kWh" "kilowatt hour" 3600000 0,
    plainUnit "Btu" "British thermal unit" 105505585 5,
    plainUnit "mmBtu" "million Btu" 1055055850 0,
    { plainUnit "cal" "calorie" 4184 3 with visible := false },
    plainUnit "kcal" "kilocalorie" 4184 0]

def powerUnits : List (MeasureUnit α) :=
  [between none "kW" (plainUnit "W" "watt" 1 0),
    between "W" "MW" (plainUnit "kW" "kilowatt" 1000 0),
    between "kW" none (plainUnit "MW" "megawatt" 1000000 0),
    plainUnit "hp" "horsepower" 7456998715822702 13]

def velocityUnits : List (MeasureUnit α) :=
  [plainUnit "m/s" "meter per second" 1 0,
    .proportional "km/hr" "kilometer per hour"
      (Scalar.decimal 1000 0 / Scalar.decimal 3600 0),
    .proportional "mph" "mile per hour"
      (Scalar.decimal 1609344 3 / Scalar.decimal 3600 0)]

def densityUnits : List (MeasureUnit α) :=
  [plainUnit "kg/m^3" "kilogram per cubic meter" 1 0,
    plainUnit "g/L" "gram per liter" 1 0,
    .proportional "lb/gal" "pound per gallon"
      (Scalar.decimal 45359237 8 / Scalar.decimal 3785411784 12)]

def builtinQuantities : List (QuantityDefinition α) :=
  [⟨"ratio", "r", .ratio, 0, ratioUnits⟩,
    ⟨"mass", "m", .mass, 0, massUnits⟩,
    ⟨"length", "l", .length, 0, lengthUnits⟩,
    ⟨"time", "t", .time, 0, timeUnits⟩,
    ⟨"currency", "$", .currency, 0, currencyUnits⟩,
    ⟨"area", "a", .area, 0, areaUnits⟩,
    ⟨"volume", "v", .volume, 0, volumeUnits⟩,
    ⟨"energy", "e", .energy, 2, energyUnits⟩,
    ⟨"power", "p", .power, 0, powerUnits⟩,
    ⟨"velocity", "u", .velocity, 0, velocityUnits⟩,
    ⟨"density", "rho", .density, 0, densityUnits⟩]

/-- The built-in document. -/
def builtin : Definitions α :=
  { quantities := builtinQuantities
    legacy := Json.arrange
      [("heat", "energy"), ("distance", "length"), ("weight", "mass"),
        ("MMBtu", "mmBtu"), ("Kwh", "kWh"), ("bbl_oil", "bbl")] }

end Metrology.Definitions
