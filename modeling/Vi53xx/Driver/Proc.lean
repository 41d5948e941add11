import Vi53xx.Driver.Registry

/-! The text of the proc files of the driver. -/

set_option autoImplicit false

namespace Vi53xx.Driver

open Foundation.CText

def PCI_SLOT (devfn : BitVec 8) : BitVec 8 := (devfn >>> 3) &&& 0x1F#8

def PCI_FUNC (devfn : BitVec 8) : BitVec 8 := devfn &&& 0x07#8

/-- `"%-10s %d:%d:0x%x\n"`. -/
def mappingLine (xcdev : XdmaCdev) : List Char :=
  padRight 10 xcdev.info.deviceName ++ ' ' :: decimal (MINOR xcdev.cdevno).toInt ++
    ':' :: decimal xcdev.info.boardId.toInt ++
    ':' :: '0' :: 'x' :: hexadecimal xcdev.info.boardType ++ ['\n']

def mappingShow (boards : List XdmaCdev) : List Char :=
  boards.flatMap mappingLine

/-- `"%-10s %d %d:%d %04x:%04x %04x:%02x:%02x.%01x %d:%d\n"`. -/
def boardsLine (xpdev : XdmaPciDev) : List Char :=
  let xcdev := xpdev.ctrlCdev
  let pdev := xpdev.pdev
  padRight 10 xcdev.info.deviceName ++ ' ' :: decimal (MINOR xcdev.cdevno).toInt ++
    ' ' :: decimal (MAJOR xcdev.cdevno).toInt ++ ':' :: decimal (MINOR xcdev.cdevno).toInt ++
    ' ' :: padZeros 4 (hexadecimal pdev.vendor) ++ ':' :: padZeros 4 (hexadecimal pdev.device) ++
    ' ' :: padZeros 4 (hexadecimal pdev.domain) ++ ':' :: padZeros 2 (hexadecimal pdev.bus) ++
    ':' :: padZeros 2 (hexadecimal (PCI_SLOT pdev.devfn)) ++
    '.' :: padZeros 1 (hexadecimal (PCI_FUNC pdev.devfn)) ++
    ' ' :: decimal (MINOR xcdev.cdevno).toInt ++ ':' :: decimal xcdev.info.boardId.toInt ++ ['\n']

def boardsShow (boards : List XdmaPciDev) : List Char :=
  boards.flatMap boardsLine

def hexToVersionString (num : BitVec 32) : List Char :=
  let byte2 := (num >>> 16) &&& 0xFF#32
  let byte1 := (num >>> 8) &&& 0xFF#32
  let byte0 := num &&& 0xFF#32
  decimal byte2.toInt ++ '.' :: decimal byte1.toInt ++ '.' :: decimal byte0.toInt

def deviceShow (xcdev : XdmaCdev) : List Char :=
  "Board: '".toList ++ xcdev.info.deviceName ++ '_' :: decimal (MINOR xcdev.cdevno).toInt ++
    "', Serial: ".toList ++ hexadecimal xcdev.info.serial ++
    "\nFPGA-version: '".toList ++ hexToVersionString xcdev.info.fpgaVersion ++
    "'\nMDL-version: '".toList ++ hexToVersionString xcdev.info.mdlVersion ++
    "'\nLED-blink: '0x".toList ++ hexadecimal xcdev.info.ledBlink ++
    "'\nBoard_type: '0x".toList ++ hexadecimal xcdev.info.boardType ++
    "'\nBoard_id: '".toList ++ decimal xcdev.info.boardId.toInt ++ "'\n".toList

/-- The records on `pcie_device_list`, if none of them has been freed. -/
def Registry.probed (registry : Registry) : Option (List XdmaPciDev) :=
  registry.pcieDeviceList.mapM registry.xpdevs

/-- What a read of the file returns, unless it touches a freed record. -/
def Registry.show (registry : Registry) : ProcFops → Option (List Char)
  | .boards => registry.probed.map boardsShow
  | .mapping => registry.probed.map fun boards => mappingShow (boards.map XdmaPciDev.ctrlCdev)
  | .device xpdev => (registry.xpdevs xpdev).map fun board => deviceShow board.ctrlCdev

def procDir : List Char := "/proc/vi53xx/".toList

def Registry.procfs (registry : Registry) (path : List Char) : Option (List Char) :=
  (registry.procEntries.find? fun entry => procDir ++ entry.name == path).bind fun entry =>
    registry.show entry.fops

end Vi53xx.Driver
