import Htvmm.Word.Field
import Htvmm.Loop.ForRange
import Htvmm.Paging.Entry
import Htvmm.Paging.Walk
import Htvmm.Boot.Args
import Htvmm.Loader.Paging
import Htvmm.Loader.Construct
import Htvmm.Loader.Modify
import Htvmm.Loader.Create
import Htvmm.Loader.VmmArea
import Htvmm.Loader.Keeps
import Htvmm.Ept.Entry
import Htvmm.Ept.Init
import Htvmm.Ept.Map
import Htvmm.Cpu.GuestWalk
import Htvmm.Asm.X86
import Htvmm.Asm.Vmx
import Htvmm.Cpu.Tss
import Htvmm.Vmx.Exit
import Htvmm.Vmx.Emulate
import Htvmm.Vmx.Rip
import Htvmm.Vmx.Region
import Htvmm.Vmx.Setup
import Htvmm.Vmx.Entry
import Htvmm.Vmx.Launch
import Htvmm.Loader.MemorySize
import Htvmm.Asm.Io
import Htvmm.Vmm.Init
