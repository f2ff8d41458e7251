import SampleData.Decimal.Text
import SampleData.Provider.Stocked
import SampleData.Random.Real

/-! # Hardware

Parts of computers, screens and telephones.
-/
namespace SampleData.Hardware

def resolutions : Table String :=
  ⟨"1152x768", ["1280x720", "1280x800", "1366x768", "1440x900", "1600x900", "1920x1080",
   "1920x1200", "2560x1440", "2560x1600", "2880x1800", "3840x2160"]⟩

def screenSizes : Table String :=
  ⟨"11″", ["12″", "13″", "14″", "15″", "17″", "21.5″", "24″", "27″"]⟩

def processors : Table String :=
  ⟨"AMD Ryzen 5", ["AMD Ryzen 7", "Apple M1", "Intel® Core i3", "Intel® Core i5", "Intel® Core i7",
   "Intel® Core i9", "Intel® Xeon"]⟩

def generations : Table String :=
  ⟨"2nd Generation", ["3rd Generation", "4th Generation", "5th Generation", "6th Generation",
   "7th Generation", "8th Generation"]⟩

def shortGenerations : Table String :=
  ⟨"2nd Gen", ["3rd Gen", "4th Gen", "5th Gen", "6th Gen", "7th Gen", "8th Gen"]⟩

def codenames : Table String :=
  ⟨"Broadwell", ["Cannonlake", "Coffee Lake", "Haswell", "Ivy Bridge", "Kaby Lake", "Sandy Bridge",
   "Skylake", "Zen", "Zen 2"]⟩

def ramTypes : Table String :=
  ⟨"DDR2", ["DDR3", "DDR4"]⟩

def ramSizes : Table String :=
  ⟨"4", ["6", "8", "16", "32", "64"]⟩

def drives : Table String :=
  ⟨"64GB SSD", ["128GB SSD", "256GB SSD", "512GB SSD", "1TB SSD", "500GB HDD", "1TB HDD",
   "2TB HDD"]⟩

def graphicsCards : Table String :=
  ⟨"AMD Radeon Pro 560", ["AMD Radeon RX 580", "Intel® HD Graphics 620",
   "Intel® Iris™ Pro Graphics 6200", "Intel® Iris™ Plus Graphics 650", "Nvidia GeForce GTX 1060",
   "Nvidia GeForce GTX 1080", "Nvidia Quadro P4000"]⟩

def manufacturers : Table String :=
  ⟨"Acer", ["Apple", "Asus", "Dell", "Fujitsu", "HP", "Lenovo", "MSI", "Samsung", "Sony",
   "Toshiba"]⟩

def phoneModels : Table String :=
  ⟨"Google Pixel", ["Huawei P10", "iPhone 7", "iPhone SE", "LG G6", "Motorola Moto G5",
   "Nokia Lumia 920", "OnePlus 5", "Samsung Galaxy S8", "Xiaomi Mi 6"]⟩

variable {σ : Type} [WordSource σ]

def cpuFrequency : StateM σ String := do
  return Decimal.fixed 1 (← Random.real 1.5 4.3) ++ "GHz"

def ramSize : StateM σ String := do
  return (← Random.choose ramSizes) ++ "GB"

inductive Call where
  | resolution
  | screenSize
  | cpu
  | cpuFrequency
  | generation (short : Bool)
  | cpuCodename
  | ramType
  | ramSize
  | ssdOrHdd
  | graphics
  | manufacturer
  | phoneModel

def perform : Call → Gen σ Json
  | .resolution => (Gen.draw (Random.choose resolutions)).text
  | .screenSize => (Gen.draw (Random.choose screenSizes)).text
  | .cpu => (Gen.draw (Random.choose processors)).text
  | .cpuFrequency => (Gen.draw cpuFrequency).text
  | .generation short =>
    (Gen.draw (Random.choose (if short then shortGenerations else generations))).text
  | .cpuCodename => (Gen.draw (Random.choose codenames)).text
  | .ramType => (Gen.draw (Random.choose ramTypes)).text
  | .ramSize => (Gen.draw ramSize).text
  | .ssdOrHdd => (Gen.draw (Random.choose drives)).text
  | .graphics => (Gen.draw (Random.choose graphicsCards)).text
  | .manufacturer => (Gen.draw (Random.choose manufacturers)).text
  | .phoneModel => (Gen.draw (Random.choose phoneModels)).text

def fields : List (String × Call) :=
  [("cpu", .cpu),
   ("cpu_codename", .cpuCodename),
   ("cpu_frequency", .cpuFrequency),
   ("generation", .generation false),
   ("graphics", .graphics),
   ("manufacturer", .manufacturer),
   ("phone_model", .phoneModel),
   ("ram_size", .ramSize),
   ("ram_type", .ramType),
   ("resolution", .resolution),
   ("screen_size", .screenSize),
   ("ssd_or_hdd", .ssdOrHdd)]

end SampleData.Hardware
