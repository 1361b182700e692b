namespace EmulatedShell

/-- Small letters that share one capital letter, class by class. -/
def caseKinClasses : List (List Nat) :=
  [[105, 305], [115, 383], [181, 956], [837, 953, 8126], [912, 8147], [944, 8163], [946, 976],
   [949, 1013], [952, 977], [954, 1008], [960, 982], [961, 1009], [962, 963], [966, 981],
   [1074, 7296], [1076, 7297], [1086, 7298], [1089, 7299], [1090, 7300, 7301], [1098, 7302],
   [1123, 7303], [7304, 42571], [7777, 7835], [64261, 64262]]

/-- The small letters that share a capital with the small letter `n`, itself first. -/
def caseKin (n : Nat) : List Nat :=
  n :: (caseKinClasses.find? (·.contains n)).getD []

end EmulatedShell
